/-!
# Resource addresses

An address is a scheme with an authority and a path, an authority alone, a path alone, or a star.
Only an address with a scheme and an authority can be asked for something. `Uri.parse` is as
lenient as the peers are: it checks which characters stand where, and in the authority the
brackets, colons and percent signs, but it neither decodes nor normalises anything.
-/

namespace SliceSelection.Http

/-- Why a text is no address. -/
inductive UriFault where
  | empty
  | tooLong
  | schemeTooLong
  | badChar
  | badAuthority
  | badFormat
deriving DecidableEq, Repr

/-- What a fault says. -/
def UriFault.message : UriFault → String
  | empty => "empty string"
  | tooLong => "uri too long"
  | schemeTooLong => "scheme too long"
  | badChar => "invalid uri character"
  | badAuthority => "invalid authority"
  | badFormat => "invalid format"

/-- An address. -/
structure Uri where
  scheme : Option String
  authority : Option String
  /-- The path with the query behind it; a fragment is not kept. -/
  path : String
deriving DecidableEq, Repr

namespace Uri

/-- The greatest number of bytes of an address. -/
def maxBytes : Nat := 65534

/-- The greatest number of characters of a scheme. -/
def maxScheme : Nat := 64

/-- Whether an address says whom to ask. -/
def isAbsolute (u : Uri) : Bool := u.scheme.isSome && u.authority.isSome

/-! ### Scheme -/

/-- Whether a character may stand in a scheme. -/
def isSchemeChar (c : Char) : Bool := c.isAlphanum || c == '+' || c == '-' || c == '.' || c == '~'

/-- Whether two texts agree but for the case of letters. -/
def sameLetters (cs ds : List Char) : Bool := cs.map Char.toLower == ds.map Char.toLower

/-- The scheme that a text begins with, and what follows the slashes behind it. -/
def splitScheme (cs : List Char) : Except UriFault (Option (String × List Char)) :=
  if sameLetters (cs.take 7) "http://".toList then .ok (some ("http", cs.drop 7))
  else if sameLetters (cs.take 8) "https://".toList then .ok (some ("https", cs.drop 8))
  else
    let scheme := cs.takeWhile isSchemeChar
    match cs.dropWhile isSchemeChar with
    | ':' :: '/' :: '/' :: rest =>
      if cs.length ≤ 3 then .ok none
      else if maxScheme < scheme.length then .error .schemeTooLong
      else .ok (some (String.ofList scheme, rest))
    | _ => .ok none

/-! ### Authority -/

/-- Whether a character ends an authority. -/
def endsAuthority (c : Char) : Bool := c == '/' || c == '?' || c == '#'

/-- Whether a character may stand in an authority; a percent sign may in parts of it. -/
def isAuthorityChar (c : Char) : Bool :=
  c.isAlphanum || "!$%&'()*+,-.:;=@[]_~".toList.contains c

/-- What was seen of an authority. -/
structure AuthorityScan where
  /-- The colons that may still separate a port. -/
  colons : Nat
  opened : Bool
  closed : Bool
  /-- Whether a percent sign stands in what may be the host. -/
  percent : Bool
  /-- Whether the last character is an at sign. -/
  endsInAt : Bool
deriving DecidableEq, Repr

namespace AuthorityScan

/-- Nothing was seen. -/
def start : AuthorityScan := ⟨0, false, false, false, false⟩

/-- The greatest number of colons in a row of parts. -/
def maxColons : Nat := 8

/-- See one more character. An at sign ends the user, a closing bracket the address. -/
def step (s : AuthorityScan) (c : Char) : Except UriFault AuthorityScan :=
  let s := { s with endsInAt := c == '@' }
  if !isAuthorityChar c then .error .badChar
  else match c with
    | ':' =>
      if maxColons ≤ s.colons then .error .badAuthority
      else .ok { s with colons := s.colons + 1 }
    | '[' => if s.percent || s.opened then .error .badAuthority else .ok { s with opened := true }
    | ']' =>
      if !s.opened || s.closed then .error .badAuthority
      else .ok { s with closed := true, colons := 0, percent := false }
    | '@' => .ok { s with colons := 0, percent := false }
    | '%' => .ok { s with percent := true }
    | _ => .ok s

/-- Whether what was seen is an authority. -/
def isComplete (s : AuthorityScan) : Bool :=
  s.opened == s.closed && s.colons ≤ 1 && !s.endsInAt && !s.percent

end AuthorityScan

/-- The authority that a text begins with, and what follows it. -/
def splitAuthority (cs : List Char) : Except UriFault (List Char × List Char) := do
  let authority := cs.takeWhile (!endsAuthority ·)
  let scan ← authority.foldlM AuthorityScan.step .start
  if scan.isComplete then return (authority, cs.dropWhile (!endsAuthority ·))
  else throw .badAuthority

/-! ### Path -/

/-- Whether a character may stand in a path. -/
def isPathChar (c : Char) : Bool :=
  let n := c.toNat
  n == 0x21 || n == 0x22 || (0x24 ≤ n && n ≤ 0x3B) || n == 0x3D || (0x40 ≤ n && n ≤ 0x5F) ||
    (0x61 ≤ n && n != 0x7F)

/-- Whether a character may stand in a query. -/
def isQueryChar (c : Char) : Bool :=
  let n := c.toNat
  n == 0x21 || (0x24 ≤ n && n ≤ 0x3B) || n == 0x3D || (0x3F ≤ n && n != 0x7F)

/-- The path and query of a text, up to a fragment. -/
def parsePath (cs : List Char) : Except UriFault String :=
  let path := cs.takeWhile fun c => c != '?' && c != '#'
  let query := match cs.dropWhile fun c => c != '?' && c != '#' with
    | '?' :: rest => rest.takeWhile (· != '#')
    | _ => []
  let asked := (cs.dropWhile fun c => c != '?' && c != '#').head? == some '?'
  if path.all isPathChar && query.all isQueryChar then
    .ok (String.ofList (path ++ (if asked then '?' :: query else [])))
  else .error .badChar

/-! ### Addresses -/

/-- An address that is an authority alone. -/
def parseAuthority (cs : List Char) : Except UriFault Uri := do
  match ← splitAuthority cs with
  | (authority, []) => return ⟨none, some (String.ofList authority), ""⟩
  | _ => throw .badFormat

/-- An address that begins neither with a slash nor is a star. -/
def parseFull (cs : List Char) : Except UriFault Uri := do
  match ← splitScheme cs with
  | none => parseAuthority cs
  | some (scheme, rest) =>
    let (authority, rest) ← splitAuthority rest
    if authority.isEmpty then throw .badFormat
    return ⟨some scheme, some (String.ofList authority), ← parsePath rest⟩

/-- Read an address. -/
def parse (s : String) : Except UriFault Uri :=
  if maxBytes < s.utf8ByteSize then .error .tooLong
  else match s.toList with
    | [] => .error .empty
    | ['*'] => .ok ⟨none, none, "*"⟩
    | '/' :: rest => (parsePath ('/' :: rest)).map fun path => ⟨none, none, path⟩
    | cs => parseFull cs

/-! ### Asking -/

/-- The path that an address asks for: at least a slash. -/
def target (u : Uri) : String := if u.path.startsWith "/" then u.path else "/" ++ u.path

/-- An address as it is asked: in the scheme the names that are known are in lower case, and no
fragment is left. -/
def text (u : Uri) : String :=
  (u.scheme.map (· ++ "://")).getD "" ++ u.authority.getD "" ++ u.target

end Uri

end SliceSelection.Http
