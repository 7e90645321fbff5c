/-!
# Glyphs

A document is read as a sequence of glyphs: characters that know where they stand. A line break
is one glyph however it is written, and all but the two separators of Unicode read as a newline.
Controls have no place in a document.
-/

namespace SliceSelection.Yaml

/-- Why a text is no document. -/
inductive Fault where
  | control
  | tab
  | badIndicator
  | badKey
  | badEscape
  | badScalar
  | badTag
  | badAnchor
  | badDirective
  | badContext
  | endOfText
  | documentIndicator
  | badStructure
  | unknownAlias
  | badValue
  | noDocument
  | manyDocuments
deriving DecidableEq, Repr

/-- What a fault says. -/
def Fault.message : Fault → String
  | control => "control characters are not allowed"
  | tab => "found a tab where an indentation space is expected"
  | badIndicator => "found character that cannot start any token"
  | badKey => "could not find expected ':'"
  | badEscape => "found unknown escape character"
  | badScalar => "did not find expected comment or line break"
  | badTag => "did not find expected tag"
  | badAnchor => "did not find expected alphabetic or numeric character"
  | badDirective => "found bad directive"
  | badContext => "entries are not allowed in this context"
  | endOfText => "found unexpected end of stream"
  | documentIndicator => "found unexpected document indicator"
  | badStructure => "did not find expected node content"
  | unknownAlias => "unknown anchor"
  | badValue => "invalid type or value"
  | noDocument => "EOF while parsing a value"
  | manyDocuments => "deserializing from YAML containing more than one document is not supported"

/-- A character and where it stands. -/
structure Glyph where
  char : Char
  isBreak : Bool
  line : Nat
  column : Nat
  /-- The number of bytes before it. -/
  index : Nat
deriving DecidableEq, Repr

/-- Whether a character may stand in a document. -/
def isAllowed (c : Char) : Bool :=
  let n := c.toNat
  n == 0x09 || n == 0x0A || n == 0x0D || (0x20 ≤ n && n ≤ 0x7E) || n == 0x85 ||
    (0xA0 ≤ n && n ≤ 0xFFFD) || 0x10000 ≤ n

/-- Whether a character breaks a line. -/
def isLineBreak (c : Char) : Bool :=
  c == '\n' || c == '\r' || c == '\u0085' || c == '\u2028' || c == '\u2029'

namespace Glyph

/-- What a line break reads as. -/
def breakChar (c : Char) : Char := if c == '\u2028' || c == '\u2029' then c else '\n'

/-- The glyphs of a text from a position on. -/
def ofChars (line column index : Nat) : List Char → List Glyph
  | [] => []
  | '\r' :: '\n' :: rest =>
    ⟨'\n', true, line, column, index⟩ :: ofChars (line + 1) 0 (index + 2) rest
  | c :: rest =>
    if isLineBreak c then
      ⟨breakChar c, true, line, column, index⟩ :: ofChars (line + 1) 0 (index + c.utf8Size) rest
    else ⟨c, false, line, column, index⟩ :: ofChars line (column + 1) (index + c.utf8Size) rest

/-- The glyphs of a document. A byte order mark is one of them: it takes up a column. -/
def ofDocument (s : String) : Except Fault (List Glyph) :=
  if s.toList.all isAllowed then .ok (ofChars 0 0 0 s.toList) else .error .control

/-! ### Classes -/

/-- Whether a glyph is a given character. -/
def is (g : Glyph) (c : Char) : Bool := !g.isBreak && g.char == c

/-- Whether a glyph is a space or a tab. -/
def isBlank (g : Glyph) : Bool := g.is ' ' || g.is '\t'

/-- Whether a glyph is a blank or a line break. -/
def isSpace (g : Glyph) : Bool := g.isBreak || g.isBlank

/-- Whether a glyph may stand in a name. -/
def isNameChar (g : Glyph) : Bool :=
  !g.isBreak && (g.char.isAlphanum || g.char == '_' || g.char == '-')

end Glyph

/-- Whether a word ends here: at a blank, a line break or the end of the text. -/
def endsWord : List Glyph → Bool
  | [] => true
  | g :: _ => g.isSpace

/-- Whether a line ends here. -/
def endsLine : List Glyph → Bool
  | [] => true
  | g :: _ => g.isBreak

/-- Whether a document indicator stands at the beginning of a line. -/
def isDocumentIndicator : List Glyph → Bool
  | a :: b :: c :: rest =>
    a.column == 0 && endsWord rest &&
      ((a.is '-' && b.is '-' && c.is '-') || (a.is '.' && b.is '.' && c.is '.'))
  | _ => false

/-- The characters of glyphs. -/
def charsOf (gs : List Glyph) : List Char := gs.map (·.char)

/-- What stands behind blanks and a comment, which end a line. -/
def afterComment (gs : List Glyph) : List Glyph :=
  match gs.dropWhile (·.isBlank) with
  | g :: rest => if g.is '#' then rest.dropWhile (!·.isBreak) else g :: rest
  | [] => []

end SliceSelection.Yaml
