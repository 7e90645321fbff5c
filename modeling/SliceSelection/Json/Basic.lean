/-!
# JSON values

The values of the JSON documents that are exchanged. Integers that fit into 64 bits are numbers
of their own; any other number is kept as it is written, since no document of this program holds
one. A string literal may spell a surrogate without its partner: it then stands for no text, which
is harmless where the value is skipped and an error where it is wanted.
-/

namespace SliceSelection

/-- A JSON value. -/
inductive Json where
  | null
  | bool (b : Bool)
  /-- An integer that fits into 64 bits, with or without a sign. -/
  | int (n : Int)
  /-- Any other number, as written. -/
  | decimal (literal : String)
  /-- A string, or nothing if its literal stands for no text. -/
  | string (text : Option String)
  | array (items : List Json)
  /-- The members in the order of the document, of which several may share a key. -/
  | object (members : List (Option String × Json))
deriving Repr, Inhabited

namespace Json

/-- The string of a text. -/
def ofString (s : String) : Json := .string (some s)

/-- The number of a natural number. -/
def ofNat (n : Nat) : Json := .int n

/-- The object with the given members, of which absent ones are left out. -/
def record (members : List (String × Option Json)) : Json :=
  .object (members.filterMap fun m => m.2.map fun v => (some m.1, v))

/-- The array of the values of a list. -/
def ofList (f : α → Json) (xs : List α) : Json := .array (xs.map f)

end Json

end SliceSelection
