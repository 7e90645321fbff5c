import SliceSelection.Json.Basic

/-!
# JSON lexemes

A document is a sequence of lexemes with white space between them: punctuation, the three words,
numbers and string literals. `Token.text` writes a lexeme and `Token.ofText?` splits a document
into its lexemes; the compact form of a document is the text of its lexemes with nothing between.
-/

namespace SliceSelection.Json

/-- A lexeme of a JSON document. -/
inductive Token where
  | openArray
  | closeArray
  | openObject
  | closeObject
  | comma
  | colon
  | null
  | bool (b : Bool)
  | int (n : Int)
  | decimal (literal : String)
  | string (text : Option String)
deriving DecidableEq, Repr

/-! ### String literals -/

/-- A hexadecimal digit in lower case. -/
def hexDigit (n : Nat) : Char := if n < 10 then Char.ofNat (48 + n) else Char.ofNat (87 + n)

/-- How a character is written in a literal: quotation mark, backslash and the controls are
escaped, the common controls by a letter. -/
def escapeChar (c : Char) : List Char :=
  if c = '"' then ['\\', '"']
  else if c = '\\' then ['\\', '\\']
  else if c = '\x08' then ['\\', 'b']
  else if c = '\t' then ['\\', 't']
  else if c = '\n' then ['\\', 'n']
  else if c = '\x0c' then ['\\', 'f']
  else if c = '\r' then ['\\', 'r']
  else if c.toNat < 0x20 then
    ['\\', 'u', '0', '0', hexDigit (c.toNat / 16), hexDigit (c.toNat % 16)]
  else [c]

/-- The characters up to the quotation mark that ends a literal, and what follows it. -/
def splitLiteral : List Char → Option (List Char × List Char)
  | [] => none
  | '"' :: rest => some ([], rest)
  | '\\' :: c :: rest => (splitLiteral rest).map fun (body, rest) => ('\\' :: c :: body, rest)
  | c :: rest => (splitLiteral rest).map fun (body, rest) => (c :: body, rest)

/-- A piece of a literal: a character, or a number written as an escape. -/
inductive Piece where
  | char (c : Char)
  | unit (n : Nat)
deriving DecidableEq, Repr

/-- The value of a hexadecimal digit. -/
def hexValue? (c : Char) : Option Nat :=
  if '0' ≤ c ∧ c ≤ '9' then some (c.toNat - 48)
  else if 'a' ≤ c ∧ c ≤ 'f' then some (c.toNat - 87)
  else if 'A' ≤ c ∧ c ≤ 'F' then some (c.toNat - 55)
  else none

/-- The number that four hexadecimal digits stand for. -/
def unit? (a b c d : Char) : Option Nat := do
  return (← hexValue? a) * 4096 + (← hexValue? b) * 256 + (← hexValue? c) * 16 + (← hexValue? d)

/-- The character that a letter behind a backslash stands for. -/
def shortEscape? : Char → Option Char
  | '"' => some '"'
  | '\\' => some '\\'
  | '/' => some '/'
  | 'b' => some '\x08'
  | 'f' => some '\x0c'
  | 'n' => some '\n'
  | 'r' => some '\r'
  | 't' => some '\t'
  | _ => none

/-- The pieces of a literal: no control stands for itself, and every escape is complete. -/
def pieces? : List Char → Option (List Piece)
  | [] => some []
  | '\\' :: 'u' :: a :: b :: c :: d :: rest => do
    return .unit (← unit? a b c d) :: (← pieces? rest)
  | '\\' :: c :: rest => do return .char (← shortEscape? c) :: (← pieces? rest)
  | c :: rest =>
    if c.toNat < 0x20 ∨ c = '\\' then none else (pieces? rest).map (.char c :: ·)

/-- Whether a number is the first half of a pair. -/
def isHighSurrogate (n : Nat) : Bool := 0xD800 ≤ n && n < 0xDC00

/-- Whether a number is the second half of a pair. -/
def isLowSurrogate (n : Nat) : Bool := 0xDC00 ≤ n && n < 0xE000

/-- The text of pieces: two halves of a pair give one character, a half alone gives none. -/
def joinPieces? : List Piece → Option (List Char)
  | [] => some []
  | .char c :: rest => (joinPieces? rest).map (c :: ·)
  | .unit n :: .unit m :: rest =>
    if isHighSurrogate n then
      if isLowSurrogate m then
        (joinPieces? rest).map
          (Char.ofNat (0x10000 + (n - 0xD800) * 1024 + (m - 0xDC00)) :: ·)
      else none
    else if isLowSurrogate n then none
    else (joinPieces? (.unit m :: rest)).map (Char.ofNat n :: ·)
  | .unit n :: rest =>
    if isHighSurrogate n || isLowSurrogate n then none
    else (joinPieces? rest).map (Char.ofNat n :: ·)

/-- The string of the characters between two quotation marks. -/
def literal? (body : List Char) : Option Token :=
  (pieces? body).map fun ps => .string ((joinPieces? ps).map String.ofList)

/-! ### Numbers -/

/-- Whether a character may stand in a number. -/
def isNumberChar (c : Char) : Bool :=
  c.isDigit || c == '-' || c == '+' || c == '.' || c == 'e' || c == 'E'

/-- The value of decimal digits. -/
def digitsValue (ds : List Char) : Nat := ds.foldl (fun n c => n * 10 + (c.toNat - 48)) 0

/-- Whether characters are one or more digits. -/
def isDigits (cs : List Char) : Bool := !cs.isEmpty && cs.all Char.isDigit

/-- Whether characters are an exponent, or nothing. -/
def isExponent : List Char → Bool
  | [] => true
  | e :: rest =>
    (e == 'e' || e == 'E') &&
      match rest with
      | '+' :: ds => isDigits ds
      | '-' :: ds => isDigits ds
      | ds => isDigits ds

/-- Whether characters are a fraction and an exponent, each of which may be missing. -/
def isFractionExponent : List Char → Bool
  | '.' :: rest =>
    let (ds, rest) := rest.span Char.isDigit
    !ds.isEmpty && isExponent rest
  | rest => isExponent rest

/-- The least number that is kept as an integer. -/
def intMin : Int := -9223372036854775808

/-- The greatest number that is kept as an integer. -/
def intMax : Int := 18446744073709551615

/-- The number that characters spell: no superfluous zero leads, and a number with a fraction or
an exponent, a negative zero and a number beyond 64 bits are kept as written. -/
def number? (literal : List Char) : Option Token :=
  let (negative, unsigned) := match literal with
    | '-' :: rest => (true, rest)
    | rest => (false, rest)
  let (ds, rest) := unsigned.span Char.isDigit
  if ds.isEmpty || (ds.head? == some '0' && 1 < ds.length) || !isFractionExponent rest then none
  else
    let n : Int := if negative then -(digitsValue ds : Int) else digitsValue ds
    if rest.isEmpty && !(negative && n == 0) && intMin ≤ n && n ≤ intMax then some (.int n)
    else some (.decimal (String.ofList literal))

/-! ### Documents -/

namespace Token

/-- The punctuation that a character is. -/
def punctuation? : Char → Option Token
  | '[' => some .openArray
  | ']' => some .closeArray
  | '\x7b' => some .openObject
  | '\x7d' => some .closeObject
  | ',' => some .comma
  | ':' => some .colon
  | _ => none

/-- The token that letters spell. -/
def word? (letters : List Char) : Option Token :=
  if letters = "null".toList then some .null
  else if letters = "true".toList then some (.bool true)
  else if letters = "false".toList then some (.bool false)
  else none

/-- Whether a character is white space between lexemes. -/
def isSpace (c : Char) : Bool := c == ' ' || c == '\t' || c == '\n' || c == '\r'

/-- The text of a lexeme. -/
def text : Token → List Char
  | .openArray => ['[']
  | .closeArray => [']']
  | .openObject => ['\x7b']
  | .closeObject => ['\x7d']
  | .comma => [',']
  | .colon => [':']
  | .null => "null".toList
  | .bool true => "true".toList
  | .bool false => "false".toList
  | .int n => (toString n).toList
  | .decimal literal => literal.toList
  | .string text => '"' :: (text.getD "").toList.flatMap escapeChar ++ ['"']

end Token

theorem splitLiteral_length {cs body rest : List Char}
    (h : splitLiteral cs = some (body, rest)) : rest.length < cs.length := by
  fun_induction splitLiteral cs generalizing body rest with
  | case1 => simp at h
  | case2 r =>
    obtain ⟨-, rfl⟩ := Prod.mk.inj (Option.some.inj h)
    simp
  | case3 c r ih =>
    obtain ⟨⟨b, t⟩, hb, he⟩ := Option.map_eq_some_iff.1 h
    have := ih hb
    simp only [Prod.mk.injEq] at he
    simp only [List.length_cons, ← he.2]
    omega
  | case4 c r _ _ ih =>
    obtain ⟨⟨b, t⟩, hb, he⟩ := Option.map_eq_some_iff.1 h
    have := ih hb
    simp only [Prod.mk.injEq] at he
    simp only [List.length_cons, ← he.2]
    omega

theorem length_dropWhile_le (p : Char → Bool) (cs : List Char) :
    (cs.dropWhile p).length ≤ cs.length :=
  (List.dropWhile_sublist p).length_le

namespace Token

/-- The lexemes of a document. -/
def ofText? : List Char → Option (List Token)
  | [] => some []
  | c :: rest =>
    if isSpace c then ofText? rest
    else if c = '"' then
      match _h : splitLiteral rest with
      | some (body, rest') => do return (← literal? body) :: (← ofText? rest')
      | none => none
    else if isNumberChar c then do
      return (← number? (c :: rest.takeWhile isNumberChar)) ::
        (← ofText? (rest.dropWhile isNumberChar))
    else if c.isAlpha then do
      return (← word? (c :: rest.takeWhile Char.isAlpha)) ::
        (← ofText? (rest.dropWhile Char.isAlpha))
    else do return (← punctuation? c) :: (← ofText? rest)
termination_by cs => cs.length
decreasing_by
  all_goals simp only [List.length_cons]
  · omega
  · have := splitLiteral_length (by assumption); omega
  · have := length_dropWhile_le isNumberChar rest; omega
  · have := length_dropWhile_le Char.isAlpha rest; omega
  · omega

end Token

end SliceSelection.Json
