import SliceSelection.Text.Utf8
import SliceSelection.Yaml.Scalar
import SliceSelection.Yaml.Token

/-!
# Splitting a document into lexemes

The scanner goes through the glyphs and keeps three things in mind: how far the blocks it is in
are indented, how many brackets are open, and on each level where a key may have begun. That
something was a key shows only when a colon follows it, on the same line and not too far away; the
lexemes that mark it are then put in front of it.
-/

namespace SliceSelection.Yaml

/-- A place where a key may have begun. -/
structure KeyStart where
  /-- Whether nothing but a key can stand there. -/
  required : Bool
  /-- The number of lexemes before it. -/
  before : Nat
  line : Nat
  column : Nat
  index : Nat
deriving DecidableEq, Repr

/-- The state of the scanner. -/
structure Scanner where
  /-- The lexemes found, the last one first. -/
  tokens : List Token
  /-- The number of them. -/
  count : Nat
  rest : List Glyph
  /-- The indentation of the innermost block, -1 outside of all. -/
  indent : Int
  /-- The indentations of the blocks around it. -/
  outer : List Int
  /-- The key that may have begun outside of brackets, or in the innermost ones. -/
  keyStart : Option KeyStart
  /-- Those on the levels around it; there are as many as brackets are open. -/
  outerKeys : List (Option KeyStart)
  /-- Whether a key may begin here. -/
  keyAllowed : Bool
deriving Repr

namespace Scanner

/-- The scanner before the first glyph. -/
def start (gs : List Glyph) : Scanner := ⟨[], 0, gs, -1, [], none, [], true⟩

/-- The greatest number of bytes between the beginning of a key and its colon. -/
def maxKey : Nat := 1024

/-- Whether a bracket is open. -/
def inFlow (s : Scanner) : Bool := !s.outerKeys.isEmpty

/-- Add a lexeme. -/
def push (s : Scanner) (t : Token) : Scanner :=
  { s with tokens := t :: s.tokens, count := s.count + 1 }

/-- Put a lexeme behind a number of others. -/
def insert (s : Scanner) (before : Nat) (t : Token) : Scanner :=
  let later := s.count - before
  { s with
    tokens := s.tokens.take later ++ t :: s.tokens.drop later
    count := s.count + 1 }

/-! ### Spaces -/

/-- Go over spaces, line breaks and comments; tabs count as spaces where no key may begin, and a
byte order mark does at the beginning of a line. Behind a line break outside of brackets a key
may begin. -/
def skipSpaces (flow allowed comment : Bool) : List Glyph → Bool × List Glyph
  | [] => (allowed, [])
  | g :: rest =>
    if g.isBreak then skipSpaces flow (allowed || !flow) false rest
    else if comment then skipSpaces flow allowed true rest
    else if g.is ' ' || ((flow || !allowed) && g.is '\t') || (g.column == 0 && g.is '\uFEFF') then
      skipSpaces flow allowed false rest
    else if g.is '#' then skipSpaces flow allowed true rest
    else (allowed, g :: rest)

/-- Go to the next lexeme. -/
def skip (s : Scanner) : Scanner :=
  let (allowed, rest) := skipSpaces s.inFlow s.keyAllowed false s.rest
  { s with keyAllowed := allowed, rest := rest }

/-! ### Keys -/

/-- Whether what began at a place can not be a key any more when a glyph is reached. -/
def KeyStart.isStale (k : KeyStart) (g : Glyph) : Bool :=
  k.line < g.line || k.index + maxKey < g.index

/-- Forget a place that is stale, unless a key has to be there. -/
def dropStale (g : Glyph) : Option KeyStart → Except Fault (Option KeyStart)
  | none => .ok none
  | some k =>
    if KeyStart.isStale k g then if k.required then .error .badKey else .ok none
    else .ok (some k)

/-- Forget all places that are stale. -/
def dropStaleKeys (s : Scanner) (g : Glyph) : Except Fault Scanner := do
  let outerKeys ← s.outerKeys.mapM (dropStale g)
  return { s with keyStart := ← dropStale g s.keyStart, outerKeys := outerKeys }

/-- Forget where a key may have begun, unless one has to be there. -/
def removeKey (s : Scanner) : Except Fault Scanner :=
  if s.keyStart.any (·.required) then .error .badKey else .ok { s with keyStart := none }

/-- Note that a key may begin at a glyph. -/
def saveKey (s : Scanner) (g : Glyph) : Except Fault Scanner := do
  if s.keyAllowed then
    let s ← s.removeKey
    let required := !s.inFlow && s.indent == g.column
    return { s with keyStart := some ⟨required, s.count, g.line, g.column, g.index⟩ }
  else return s

/-! ### Indentation -/

/-- End the blocks that are indented further than a column. -/
def unrollWithin (column : Int) : List Int → Scanner → Scanner
  | [], s => s
  | i :: outer, s =>
    if column < s.indent then
      unrollWithin column outer { s.push .blockEnd with indent := i, outer := outer }
    else s

/-- End the blocks that are indented further than a column; inside of brackets there are none. -/
def unroll (s : Scanner) (column : Int) : Scanner :=
  if s.inFlow then s else unrollWithin column s.outer s

/-- Begin a block if a column is indented further than the innermost one. -/
def roll (s : Scanner) (column : Nat) (before : Nat) (t : Token) : Scanner :=
  if !s.inFlow && s.indent < column then
    { s with indent := column, outer := s.indent :: s.outer }.insert before t
  else s

/-! ### Indicators -/

/-- Take an opening bracket. -/
def openFlow (s : Scanner) (g : Glyph) (rest : List Glyph) (t : Token) : Except Fault Scanner := do
  let s ← s.saveKey g
  return { s.push t with
    keyStart := none, outerKeys := s.keyStart :: s.outerKeys, keyAllowed := true, rest := rest }

/-- Take a closing bracket. -/
def closeFlow (s : Scanner) (rest : List Glyph) (t : Token) : Except Fault Scanner := do
  let s ← s.removeKey
  let s := match s.outerKeys with
    | k :: outer => { s with keyStart := k, outerKeys := outer }
    | [] => s
  return { s with keyAllowed := false, rest := rest }.push t

/-- Take a comma. -/
def flowEntry (s : Scanner) (rest : List Glyph) : Except Fault Scanner := do
  let s ← s.removeKey
  return { s with keyAllowed := true, rest := rest }.push .flowEntry

/-- Begin a block at a glyph, where one may begin. -/
def beginBlock (s : Scanner) (g : Glyph) (t : Token) : Except Fault Scanner :=
  if s.inFlow then .ok s
  else if s.keyAllowed then .ok (s.roll g.column s.count t)
  else .error .badContext

/-- Take a hyphen. -/
def blockEntry (s : Scanner) (g : Glyph) (rest : List Glyph) : Except Fault Scanner := do
  let s ← (← s.beginBlock g .blockSequenceStart).removeKey
  return { s with keyAllowed := true, rest := rest }.push .blockEntry

/-- Take a question mark. -/
def key (s : Scanner) (g : Glyph) (rest : List Glyph) : Except Fault Scanner := do
  let s ← (← s.beginBlock g .blockMappingStart).removeKey
  return { s with keyAllowed := !s.inFlow, rest := rest }.push .key

/-- Take a colon: what may have been a key was one. -/
def value (s : Scanner) (g : Glyph) (rest : List Glyph) : Except Fault Scanner := do
  match s.keyStart with
  | some k =>
    let s := (s.insert k.before .key).roll k.column k.before .blockMappingStart
    return { s with keyStart := none, keyAllowed := false, rest := rest }.push .value
  | none =>
    let s ← s.beginBlock g .blockMappingStart
    return { s with keyAllowed := !s.inFlow, rest := rest }.push .value

/-- Take a document indicator. -/
def documentIndicator (s : Scanner) (g : Glyph) (rest : List Glyph) : Except Fault Scanner := do
  let s ← (s.unroll (-1)).removeKey
  return { s with keyAllowed := false, rest := rest.drop 2 }.push
    (if g.is '-' then .documentStart else .documentEnd)

/-! ### Names and tags -/

/-- Whether an anchor may end before a glyph. -/
def endsAnchor (gs : List Glyph) : Bool :=
  endsWord gs || gs.head?.any fun g => "?:,]\x7d%@`".toList.contains g.char

/-- Take an anchor or an alias. -/
def anchor (s : Scanner) (g : Glyph) (rest : List Glyph) (make : String → Token) :
    Except Fault Scanner := do
  let s ← s.saveKey g
  let name := charsOf (rest.takeWhile (·.isNameChar))
  let rest := rest.dropWhile (·.isNameChar)
  if name.isEmpty || !endsAnchor rest then throw .badAnchor
  return { s with keyAllowed := false, rest := rest }.push (make (String.ofList name))

/-- Whether a glyph may stand in a tag; in one between angle brackets some more may. -/
def isTagChar (verbatim : Bool) (g : Glyph) : Bool :=
  g.isNameChar || (!g.isBreak && (";/?:@&=+$.!~*'()%".toList.contains g.char ||
    (verbatim && ",[]".toList.contains g.char)))

/-- The bytes of the characters of a tag, of which some are given by their numbers. -/
def tagBytes : List Char → Option (List UInt8)
  | [] => some []
  | '%' :: a :: b :: rest => do
    let digit (c : Char) : Option Nat := hexValue? ⟨c, false, 0, 0, 0⟩
    return .ofNat ((← digit a) * 16 + (← digit b)) :: (← tagBytes rest)
  | c :: rest => if c = '%' then none else (tagBytes rest).map (Text.Utf8.encodeChar c ++ ·)

/-- The text of the characters of a tag. -/
def tagText (cs : List Char) : Except Fault String :=
  match (tagBytes cs).map Text.Utf8.decode with
  | some (.ok s) => .ok s
  | _ => .error .badTag

/-- Read a tag: between angle brackets, or a handle and a suffix. -/
def readTag (rest : List Glyph) : Except Fault (Token × List Glyph) := do
  match rest with
  | h :: rest' =>
    if h.is '<' then
      let uri ← tagText (charsOf (rest'.takeWhile (isTagChar true)))
      match rest'.dropWhile (isTagChar true) with
      | c :: rest => if c.is '>' && !uri.isEmpty then return (.tag "" uri, rest) else throw .badTag
      | [] => throw .badTag
  | [] => pure ()
  let name := rest.takeWhile (·.isNameChar)
  match rest.dropWhile (·.isNameChar) with
  | m :: rest' =>
    if m.is '!' then
      let suffix ← tagText (charsOf (rest'.takeWhile (isTagChar false)))
      if suffix.isEmpty then throw .badTag
      let handle := "!" ++ String.ofList (charsOf name) ++ "!"
      return (.tag handle suffix, rest'.dropWhile (isTagChar false))
  | [] => pure ()
  let suffix ← tagText (charsOf (rest.takeWhile (isTagChar false)))
  return (if suffix.isEmpty then .tag "" "!" else .tag "!" suffix, rest.dropWhile (isTagChar false))

/-- Take a tag. -/
def tag (s : Scanner) (g : Glyph) (rest : List Glyph) : Except Fault Scanner := do
  let s ← s.saveKey g
  let (t, rest) ← readTag rest
  if !(endsWord rest || (s.inFlow && rest.head?.any (·.is ','))) then throw .badTag
  return { s with keyAllowed := false, rest := rest }.push t

/-! ### Directives -/

/-- Read the number of a version. -/
def readNumber (gs : List Glyph) : Except Fault (Nat × List Glyph) :=
  let ds := gs.takeWhile fun g => !g.isBreak && g.char.isDigit
  if ds.isEmpty || 9 < ds.length then .error .badDirective
  else .ok (ds.foldl (fun n g => n * 10 + (g.char.toNat - 48)) 0, gs.drop ds.length)

/-- Read a directive: the version, or what a tag handle stands for. -/
def readDirective (gs : List Glyph) : Except Fault (Token × List Glyph) := do
  let name := String.ofList (charsOf (gs.takeWhile (·.isNameChar)))
  let rest := gs.dropWhile (·.isNameChar)
  if !endsWord rest then throw .badDirective
  let rest := rest.dropWhile (·.isBlank)
  if name == "YAML" then
    let (major, rest) ← readNumber rest
    match rest with
    | dot :: rest =>
      if !dot.is '.' then throw .badDirective
      let (minor, rest) ← readNumber rest
      return (.version major minor, rest)
    | [] => throw .badDirective
  else if name == "TAG" then
    match rest with
    | m :: rest =>
      let inner := rest.takeWhile (·.isNameChar)
      let (mark, rest) := match rest.dropWhile (·.isNameChar) with
        | e :: rest => if e.is '!' then (true, rest) else (false, e :: rest)
        | [] => (false, [])
      if !m.is '!' || (!mark && !inner.isEmpty) || !rest.head?.any (·.isBlank) then
        throw .badDirective
      let rest := rest.dropWhile (·.isBlank)
      let start ← tagText (charsOf (rest.takeWhile (isTagChar true)))
      let rest := rest.dropWhile (isTagChar true)
      if start.isEmpty || !endsWord rest then throw .badDirective
      let handle := "!" ++ String.ofList (charsOf inner) ++ if mark then "!" else ""
      return (.tagHandle handle start, rest)
    | [] => throw .badDirective
  else throw .badDirective

/-- Take a directive, which fills its line. -/
def directive (s : Scanner) (rest : List Glyph) : Except Fault Scanner := do
  let s ← (s.unroll (-1)).removeKey
  let (t, rest) ← readDirective rest
  let rest := afterComment rest
  if !endsLine rest then throw .badDirective
  return { s with keyAllowed := false, rest := rest }.push t

/-! ### Scalars -/

/-- Take a scalar that may be a key. -/
def flowScalar (s : Scanner) (g : Glyph) (style : Style) (taken : Except Fault Taken) :
    Except Fault Scanner := do
  let s ← s.saveKey g
  let t ← taken
  let token : Token := .scalar style (String.ofList t.text)
  return { s.push token with keyAllowed := t.broken, rest := t.rest }

/-- Take a block scalar. -/
def blockScalar (s : Scanner) (style : Style) (rest : List Glyph) : Except Fault Scanner := do
  let s ← s.removeKey
  let t ← block (style = .folded) s.indent rest
  let token : Token := .scalar style (String.ofList t.text)
  return { s.push token with keyAllowed := true, rest := t.rest }

/-- Whether a plain scalar may begin with a glyph. -/
def beginsPlain (flow : Bool) (g : Glyph) (rest : List Glyph) : Bool :=
  !(g.isSpace || "-?:,[]\x7b\x7d#&*!|>'\"%@`".toList.contains g.char) ||
    (g.is '-' && !rest.head?.any (·.isBlank)) ||
    (!flow && (g.is '?' || g.is ':') && !endsWord rest)

/-! ### Scanning -/

/-- Take the lexeme that begins with a glyph. -/
def take (s : Scanner) (g : Glyph) (rest : List Glyph) : Except Fault Scanner :=
  let separates := s.inFlow || endsWord rest
  if g.column == 0 && g.is '%' then s.directive rest
  else if isDocumentIndicator (g :: rest) then s.documentIndicator g rest
  else if g.is '[' then s.openFlow g rest .flowSequenceStart
  else if g.is '\x7b' then s.openFlow g rest .flowMappingStart
  else if g.is ']' then s.closeFlow rest .flowSequenceEnd
  else if g.is '\x7d' then s.closeFlow rest .flowMappingEnd
  else if g.is ',' then s.flowEntry rest
  else if g.is '-' && endsWord rest then s.blockEntry g rest
  else if g.is '?' && separates then s.key g rest
  else if g.is ':' && separates then s.value g rest
  else if g.is '*' then s.anchor g rest .alias
  else if g.is '&' then s.anchor g rest .anchor
  else if g.is '!' then s.tag g rest
  else if g.is '|' && !s.inFlow then s.blockScalar .literal rest
  else if g.is '>' && !s.inFlow then s.blockScalar .folded rest
  else if g.is '\'' then s.flowScalar g .singleQuoted (singleQuoted [] .nothing rest)
  else if g.is '"' then s.flowScalar g .doubleQuoted (doubleQuoted [] .nothing .none rest)
  else if beginsPlain s.inFlow g rest then
    s.flowScalar g .plain (plain s.inFlow (s.indent + 1) [] .nothing (g :: rest))
  else .error .badIndicator

/-- The lexemes of a document, in at most a number of steps. -/
def runWithin : Nat → Scanner → Except Fault (List Token)
  | 0, _ => .error .endOfText
  | steps + 1, s =>
    let s := s.skip
    match s.rest with
    | [] => do
      let s ← (s.unroll (-1)).removeKey
      return s.tokens.reverse
    | g :: rest => do
      let s ← s.dropStaleKeys g
      runWithin steps (← (s.unroll g.column).take g rest)

end Scanner

/-- The lexemes of a document. -/
def Token.ofGlyphs (gs : List Glyph) : Except Fault (List Token) :=
  Scanner.runWithin (gs.length + 1) (.start gs)

end SliceSelection.Yaml
