import SliceSelection.Yaml.Glyph

/-!
# Scalars

A scalar is written plain, between quotation marks, or as a block. Where it runs over several
lines, line breaks are folded: a single one reads as a space, and of several the first is
dropped. A literal block keeps its line breaks.
-/

namespace SliceSelection.Yaml

/-- What was read of blanks and line breaks since the last other character. -/
inductive Gap where
  | nothing
  | blanks (cs : List Char)
  /-- The first line break and those behind it. -/
  | broken (first : Char) (more : List Char)
  /-- A line break that was escaped, and those behind it. -/
  | escaped (more : List Char)
deriving DecidableEq, Repr

namespace Gap

/-- How a gap reads. -/
def text : Gap → List Char
  | nothing => []
  | blanks cs => cs
  | broken first more =>
    if first == '\n' then (if more.isEmpty then [' '] else more) else first :: more
  | escaped more => more

/-- Whether a gap runs over the end of a line. -/
def isBroken : Gap → Bool
  | broken _ _ => true
  | escaped _ => true
  | _ => false

/-- Add a blank: behind a line break it does not count. -/
def addBlank (c : Char) : Gap → Gap
  | nothing => blanks [c]
  | blanks cs => blanks (cs ++ [c])
  | gap => gap

/-- Add a line break: blanks before it do not count. -/
def addBreak (c : Char) : Gap → Gap
  | nothing => broken c []
  | blanks _ => broken c []
  | broken first more => broken first (more ++ [c])
  | escaped more => escaped (more ++ [c])

/-- Whether there is a gap. -/
def isSome : Gap → Bool
  | nothing => false
  | _ => true

end Gap

/-- A scalar that was read: its characters, whether a line break follows it, and what is left. -/
structure Taken where
  text : List Char
  broken : Bool
  rest : List Glyph

/-! ### Plain scalars -/

/-- Whether a glyph ends a plain scalar inside of brackets. -/
def endsFlow (g : Glyph) : Bool :=
  g.is ',' || g.is '[' || g.is ']' || g.is '\x7b' || g.is '\x7d'

/-- Whether a colon inside of brackets has nothing to separate. -/
def isStrayColon (g : Glyph) (rest : List Glyph) : Bool :=
  g.is ':' && rest.head?.any fun h => endsFlow h || h.is '?'

/-- Read a plain scalar that is indented by at least a number of columns, or stands inside of
brackets. The characters read so far come last first. -/
def plain (flow : Bool) (indent : Int) (text : List Char) (gap : Gap) :
    List Glyph → Except Fault Taken
  | [] => .ok ⟨text.reverse, gap.isBroken, []⟩
  | g :: rest =>
    if g.isBreak then plain flow indent text (gap.addBreak g.char) rest
    else if g.isBlank then
      if gap.isBroken && g.column < indent && g.is '\t' then .error .tab
      else plain flow indent text (gap.addBlank g.char) rest
    else if gap.isSome &&
        ((!flow && g.column < indent) || isDocumentIndicator (g :: rest) || g.is '#') then
      .ok ⟨text.reverse, gap.isBroken, g :: rest⟩
    else if flow && isStrayColon g rest then .error .badScalar
    else if (g.is ':' && endsWord rest) || (flow && endsFlow g) then
      .ok ⟨text.reverse, gap.isBroken, g :: rest⟩
    else plain flow indent (g.char :: (gap.text.reverse ++ text)) .nothing rest

/-! ### Quoted scalars -/

/-- Read a scalar between single quotation marks, of which two stand for one. -/
def singleQuoted (text : List Char) (gap : Gap) : List Glyph → Except Fault Taken
  | [] => .error .endOfText
  | g :: rest =>
    if g.isBreak then singleQuoted text (gap.addBreak g.char) rest
    else if g.isBlank then singleQuoted text (gap.addBlank g.char) rest
    else if isDocumentIndicator (g :: rest) then .error .documentIndicator
    else if g.is '\'' then
      match rest with
      | h :: rest' =>
        if h.is '\'' then singleQuoted ('\'' :: (gap.text.reverse ++ text)) .nothing rest'
        else .ok ⟨(gap.text.reverse ++ text).reverse, false, h :: rest'⟩
      | [] => .ok ⟨(gap.text.reverse ++ text).reverse, false, []⟩
    else singleQuoted (g.char :: (gap.text.reverse ++ text)) .nothing rest

/-- The character that a letter behind a backslash stands for. -/
def escape? : Char → Option Char
  | '0' => some '\x00'
  | 'a' => some '\x07'
  | 'b' => some '\x08'
  | 't' => some '\t'
  | '\t' => some '\t'
  | 'n' => some '\n'
  | 'v' => some '\x0b'
  | 'f' => some '\x0c'
  | 'r' => some '\r'
  | 'e' => some '\x1b'
  | ' ' => some ' '
  | '"' => some '"'
  | '/' => some '/'
  | '\\' => some '\\'
  | 'N' => some '\u0085'
  | '_' => some '\u00a0'
  | 'L' => some '\u2028'
  | 'P' => some '\u2029'
  | _ => none

/-- The number of digits that follow a letter behind a backslash. -/
def escapeDigits : Char → Option Nat
  | 'x' => some 2
  | 'u' => some 4
  | 'U' => some 8
  | _ => none

/-- The value of a hexadecimal digit. -/
def hexValue? (g : Glyph) : Option Nat :=
  let c := g.char
  if g.isBreak then none
  else if '0' ≤ c ∧ c ≤ '9' then some (c.toNat - 48)
  else if 'a' ≤ c ∧ c ≤ 'f' then some (c.toNat - 87)
  else if 'A' ≤ c ∧ c ≤ 'F' then some (c.toNat - 55)
  else none

/-- What is being read of an escape. -/
inductive Escape where
  | none
  /-- A backslash was read. -/
  | open
  /-- A number of digits is owed, and a number is read so far. -/
  | digits (owed value : Nat)
deriving DecidableEq, Repr

/-- Whether a number is that of a character. -/
def isScalarValue (n : Nat) : Bool := n < 0xD800 || (0xE000 ≤ n && n < 0x110000)

/-- Read a scalar between double quotation marks, in which a backslash begins an escape. -/
def doubleQuoted (text : List Char) (gap : Gap) : Escape → List Glyph → Except Fault Taken
  | _, [] => .error .endOfText
  | .open, g :: rest =>
    if g.isBreak then doubleQuoted text (.escaped []) .none rest
    else match escape? g.char, escapeDigits g.char with
      | some c, _ => doubleQuoted (c :: text) .nothing .none rest
      | none, some n => doubleQuoted text .nothing (.digits n 0) rest
      | none, none => .error .badEscape
  | .digits owed value, g :: rest =>
    match hexValue? g with
    | none => .error .badEscape
    | some d =>
      let n := value * 16 + d
      if 1 < owed then doubleQuoted text .nothing (.digits (owed - 1) n) rest
      else if isScalarValue n then doubleQuoted (Char.ofNat n :: text) .nothing .none rest
      else .error .badEscape
  | .none, g :: rest =>
    if g.isBreak then doubleQuoted text (gap.addBreak g.char) .none rest
    else if g.isBlank then doubleQuoted text (gap.addBlank g.char) .none rest
    else if isDocumentIndicator (g :: rest) then .error .documentIndicator
    else
      let text := gap.text.reverse ++ text
      if g.is '"' then .ok ⟨text.reverse, false, rest⟩
      else if g.is '\\' then doubleQuoted text .nothing .open rest
      else doubleQuoted (g.char :: text) .nothing .none rest

/-! ### Blocks -/

/-- What becomes of the line breaks at the end of a block. -/
inductive Chomping where
  | strip | clip | keep
deriving DecidableEq, Repr

/-- What stands behind the indicator of a block. -/
structure BlockHeader where
  chomping : Chomping
  /-- The columns by which the block is indented further than what it stands in. -/
  increment : Option Nat
deriving DecidableEq, Repr

/-- The chomping that a glyph asks for. -/
def chomping? (g : Glyph) : Option Chomping :=
  if g.is '+' then some .keep else if g.is '-' then some .strip else none

/-- Read a chomping indicator, if there is one. -/
def readChomping : List Glyph → Chomping × List Glyph
  | g :: rest =>
    match chomping? g with
    | some c => (c, rest)
    | none => (.clip, g :: rest)
  | [] => (.clip, [])

/-- Read an indentation indicator, if there is one. -/
def readIncrement : List Glyph → Except Fault (Option Nat × List Glyph)
  | g :: rest =>
    if g.isBreak || !g.char.isDigit then .ok (none, g :: rest)
    else if g.is '0' then .error .badScalar
    else .ok (some (g.char.toNat - 48), rest)
  | [] => .ok (none, [])

/-- Read what stands behind the indicator of a block, to the end of the line. -/
def readHeader (gs : List Glyph) : Except Fault (BlockHeader × List Glyph) := do
  let (chomping, rest) := readChomping gs
  let (increment, rest) ← readIncrement rest
  let (chomping, rest) :=
    if chomping = .clip && increment.isSome then readChomping rest else (chomping, rest)
  match afterComment rest with
  | [] => return (⟨chomping, increment⟩, [])
  | g :: rest => if g.isBreak then return (⟨chomping, increment⟩, rest) else throw .badScalar

/-- What was read of a block. -/
structure Block where
  /-- The characters, the last one first. -/
  text : List Char
  /-- The line break behind the last line. -/
  lineBreak : List Char
  /-- The line breaks behind that one. -/
  emptyLines : List Char
  /-- Whether the last line begins with a blank. -/
  blankLine : Bool
  /-- Whether a line is being read. -/
  inLine : Bool
  /-- The columns by which lines are indented, once that is known. -/
  indent : Option Nat
  /-- The greatest indentation of an empty line. -/
  deepest : Nat
deriving Repr

namespace Block

/-- The text of a block that has ended. -/
def finish (b : Block) (c : Chomping) : List Char :=
  b.text.reverse ++ match c with
    | .strip => []
    | .clip => b.lineBreak
    | .keep => b.lineBreak ++ b.emptyLines

/-- How the line breaks before a line read: those of a folded block are folded unless one of the
lines around them begins with a blank. -/
def between (b : Block) (folded : Bool) (g : Glyph) : List Char :=
  if folded && b.lineBreak == ['\n'] && !b.blankLine && !g.isBlank then
    if b.emptyLines.isEmpty then [' '] else b.emptyLines
  else b.lineBreak ++ b.emptyLines

/-- Begin a line with a glyph. -/
def beginLine (b : Block) (folded : Bool) (g : Glyph) : Block :=
  { b with
    text := g.char :: ((b.between folded g).reverse ++ b.text)
    lineBreak := []
    emptyLines := []
    blankLine := g.isBlank
    inLine := true }

/-- Whether a column is still inside of the indentation. -/
def isIndenting (b : Block) (column : Nat) : Bool :=
  match b.indent with
  | none => true
  | some n => column < n

/-- Read a block. Where its indentation is not given, its first line sets it, and it is at least
a number of columns. -/
def read (folded : Bool) (chomping : Chomping) (least : Nat) :
    Block → List Glyph → Except Fault Taken
  | b, [] => .ok ⟨b.finish chomping, false, []⟩
  | b, g :: rest =>
    if b.inLine then
      if g.isBreak then
        read folded chomping least { b with lineBreak := [g.char], inLine := false } rest
      else read folded chomping least { b with text := g.char :: b.text } rest
    else if b.isIndenting g.column && g.is ' ' then read folded chomping least b rest
    else if b.isIndenting g.column && g.is '\t' then .error .tab
    else
      let b := { b with deepest := max b.deepest g.column }
      if g.isBreak then
        read folded chomping least { b with emptyLines := b.emptyLines ++ [g.char] } rest
      else
        let indent := b.indent.getD (max b.deepest least)
        let b := { b with indent := some indent }
        if g.column = indent then read folded chomping least (b.beginLine folded g) rest
        else .ok ⟨b.finish chomping, false, g :: rest⟩

end Block

/-- Read a block scalar that stands in something indented by a number of columns. -/
def block (folded : Bool) (indent : Int) (gs : List Glyph) : Except Fault Taken := do
  let (header, rest) ← readHeader gs
  let given := header.increment.map fun n => (if 0 ≤ indent then indent.toNat else 0) + n
  Block.read folded header.chomping (max (indent + 1).toNat 1)
    ⟨[], [], [], false, false, given, 0⟩ rest

end SliceSelection.Yaml
