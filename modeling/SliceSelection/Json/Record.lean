import SliceSelection.Json.Document

/-!
# Reading records

A record is written as an object or as the list of its fields in their order. In an object
unknown members are skipped and a known one may stand there once; a list may leave out only
trailing fields that have a default. Names from a fixed choice are written as strings, or as an
object with that one key and no value.
-/

namespace SliceSelection.Json

/-- A field of a record. -/
structure Field where
  name : String
  /-- Whether the list form may end before this field. -/
  mayLack : Bool
deriving Repr

/-- The fields that were given, by name. -/
abbrev Fields := List (String × Json)

/-- Go through the members of an object: keys are text, unknown ones are skipped, and a known
one is taken once. -/
def collect (schema : List Field) : List (Option String × Json) → Option Fields
  | [] => some []
  | (none, _) :: _ => none
  | (some key, j) :: rest => do
    let fields ← collect schema rest
    if schema.any (·.name == key) then
      if fields.any (·.1 == key) then none else return (key, j) :: fields
    else return fields

/-- Give the items of a list to the fields in their order. -/
def distribute : List Field → List Json → Option Fields
  | [], [] => some []
  | [], _ :: _ => none
  | f :: schema, [] => if f.mayLack then distribute schema [] else none
  | f :: schema, j :: items => (distribute schema items).map ((f.name, j) :: ·)

/-- The fields of a record. -/
def fields? (schema : List Field) : Json → Option Fields
  | .object members => collect schema members
  | .array items => distribute schema items
  | _ => none

/-- The value given for a field. -/
def Fields.get? (fs : Fields) (name : String) : Option Json := fs.lookup name

/-- A field that has to be given. -/
def Fields.required (fs : Fields) (name : String) (read : Json → Option α) : Option α :=
  (fs.get? name).bind read

/-- A field that has a default. -/
def Fields.defaulting (fs : Fields) (name : String) (default : α) (read : Json → Option α) :
    Option α :=
  match fs.get? name with
  | some j => read j
  | none => some default

/-- A field that may be missing, or null. -/
def Fields.optional (fs : Fields) (name : String) (read : Json → Option α) :
    Option (Option α) :=
  match fs.get? name with
  | none => some none
  | some .null => some none
  | some j => (read j).map some

/-! ### Values of fields -/

/-- A text. -/
def text? : Json → Option String
  | .string text => text
  | _ => none

/-- A list of values that can all be read. -/
def list? (read : Json → Option α) : Json → Option (List α)
  | .array items => items.mapM read
  | _ => none

/-- An integer between two bounds. -/
def intWithin? (low high : Int) : Json → Option Int
  | .int n => if low ≤ n ∧ n ≤ high then some n else none
  | _ => none

/-- An unsigned integer of 8 bits. -/
def uint8? (j : Json) : Option UInt8 := (intWithin? 0 255 j).map fun n => .ofNat n.toNat

/-- An unsigned integer of 16 bits. -/
def uint16? (j : Json) : Option UInt16 := (intWithin? 0 65535 j).map fun n => .ofNat n.toNat

/-- An unsigned integer of 32 bits. -/
def uint32? (j : Json) : Option UInt32 := (intWithin? 0 4294967295 j).map fun n => .ofNat n.toNat

/-- A signed integer of 32 bits. -/
def int32? (j : Json) : Option Int32 :=
  (intWithin? (-2147483648) 2147483647 j).map fun n => .ofInt n

/-- The name that a choice is written by. -/
def choice? : Json → Option String
  | .string text => text
  | .object [(some name, .null)] => some name
  | _ => none

end SliceSelection.Json
