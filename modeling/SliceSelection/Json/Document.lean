import SliceSelection.Json.Token

/-!
# JSON documents

`Json.text` writes a value in the compact form: its lexemes, one after the other. `Json.parse?`
reads a document by a machine that takes the lexemes one at a time and keeps the arrays and
objects it is inside of on a stack, so that nesting is not bounded.
-/

namespace SliceSelection.Json

/-! ### Writing -/

mutual

/-- The lexemes of a value. -/
def tokens : Json → List Token
  | .null => [.null]
  | .bool b => [.bool b]
  | .int n => [.int n]
  | .decimal literal => [.decimal literal]
  | .string text => [.string text]
  | .array [] => [.openArray, .closeArray]
  | .array (j :: items) => .openArray :: tokens j ++ itemTokens items ++ [.closeArray]
  | .object [] => [.openObject, .closeObject]
  | .object ((key, j) :: members) =>
    .openObject :: .string key :: .colon :: tokens j ++ memberTokens members ++ [.closeObject]

/-- The lexemes of the items behind the first, each with the comma before it. -/
def itemTokens : List Json → List Token
  | [] => []
  | j :: items => .comma :: tokens j ++ itemTokens items

/-- The lexemes of the members behind the first, each with the comma before it. -/
def memberTokens : List (Option String × Json) → List Token
  | [] => []
  | (key, j) :: members => .comma :: .string key :: .colon :: tokens j ++ memberTokens members

end

/-- The compact text of a value. -/
def text (j : Json) : String := String.ofList (j.tokens.flatMap Token.text)

/-! ### Reading -/

/-- An array or object that is still open. -/
inductive Frame where
  /-- The items read so far, the last one first. -/
  | array (items : List Json)
  /-- The members read so far, the last one first, and the key whose value is being read. -/
  | object (members : List (Option String × Json)) (key : Option String)
deriving Repr

/-- What the machine waits for. -/
inductive Phase where
  /-- A value. -/
  | value
  /-- The first item of an array, or its end. -/
  | firstItem
  /-- The first key of an object, or its end. -/
  | firstKey
  /-- A further key of an object with these members, the last one first. -/
  | key (members : List (Option String × Json))
  /-- The colon behind a key. -/
  | colon (members : List (Option String × Json)) (key : Option String)
  /-- What follows a value: a comma or an end inside of a frame, and nothing outside. -/
  | after (j : Json)
deriving Repr

/-- The state of the machine. -/
structure Machine where
  stack : List Frame
  phase : Phase

namespace Machine

/-- Take the first lexeme of a value. -/
def startValue (stack : List Frame) : Token → Option Machine
  | .null => some ⟨stack, .after .null⟩
  | .bool b => some ⟨stack, .after (.bool b)⟩
  | .int n => some ⟨stack, .after (.int n)⟩
  | .decimal literal => some ⟨stack, .after (.decimal literal)⟩
  | .string text => some ⟨stack, .after (.string text)⟩
  | .openArray => some ⟨stack, .firstItem⟩
  | .openObject => some ⟨stack, .firstKey⟩
  | _ => none

/-- Take the lexeme behind a value. -/
def endValue (j : Json) : List Frame → Token → Option Machine
  | .array items :: stack, .comma => some ⟨.array (j :: items) :: stack, .value⟩
  | .array items :: stack, .closeArray => some ⟨stack, .after (.array (j :: items).reverse)⟩
  | .object members key :: stack, .comma => some ⟨stack, .key ((key, j) :: members)⟩
  | .object members key :: stack, .closeObject =>
    some ⟨stack, .after (.object ((key, j) :: members).reverse)⟩
  | _, _ => none

/-- Take one lexeme. -/
def step (m : Machine) (t : Token) : Option Machine :=
  match m.phase, t with
  | .value, t => startValue m.stack t
  | .firstItem, .closeArray => some ⟨m.stack, .after (.array [])⟩
  | .firstItem, t => startValue (.array [] :: m.stack) t
  | .firstKey, .closeObject => some ⟨m.stack, .after (.object [])⟩
  | .firstKey, .string key => some ⟨m.stack, .colon [] key⟩
  | .key members, .string key => some ⟨m.stack, .colon members key⟩
  | .colon members key, .colon => some ⟨.object members key :: m.stack, .value⟩
  | .after j, t => endValue j m.stack t
  | _, _ => none

/-- Take a sequence of lexemes. -/
def run (m : Machine) (ts : List Token) : Option Machine := ts.foldlM step m

/-- The value that was read, if no frame is open. -/
def result? (m : Machine) : Option Json :=
  match m.stack, m.phase with
  | [], .after j => some j
  | _, _ => none

end Machine

/-- The value that a sequence of lexemes spells. -/
def ofTokens? (ts : List Token) : Option Json := (Machine.run ⟨[], .value⟩ ts).bind (·.result?)

/-- The value that a document spells. -/
def parse? (document : String) : Option Json := (Token.ofText? document.toList).bind ofTokens?

end SliceSelection.Json
