import SliceSelection.Yaml.Node

/-!
# Values of a document

How the nodes of a document are read as the values a program wants. What a scalar is depends on
what is wanted: as a text it is taken as it stands, while a number and a truth value have to be
written plain. Nothing, written plain, is an empty list and a record without fields.

An alias is read as the node it refers to, however often. So that a short document does not stand
for an endless one, the number of aliases that are followed is limited by the size of the document.
-/

namespace SliceSelection.Yaml

/-- The tag of nothing. -/
def nullTag : String := "tag:yaml.org,2002:null"

/-- The tag of a truth value. -/
def boolTag : String := "tag:yaml.org,2002:bool"

/-- The tag of an integer. -/
def intTag : String := "tag:yaml.org,2002:int"

/-- Whether a text says that there is nothing. -/
def saysNull (s : String) : Bool := s == "null" || s == "Null" || s == "NULL" || s == "~"

/-- A reading, which may fail. It knows how many more aliases may be followed. -/
abbrev Reading := StateT Nat Option

/-- Read what a document holds, following at most a hundred aliases for each part of it. -/
def Document.read? (d : Document) (reading : Node → Reading α) : Option α :=
  (reading d.root).run' (100 * d.root.size)

namespace Document

/-- The node that is meant: an alias means the node it refers to. -/
def resolve (d : Document) (n : Node) : Reading Node :=
  match n with
  | .alias target => fun
    | 0 => none
    | left + 1 => some ((d.anchored.lookup target).getD (.alias target), left)
  | n => return n

/-- A text: any scalar. -/
def text (d : Document) (n : Node) : Reading String := do
  match ← d.resolve n with
  | .scalar _ _ s => return s
  | _ => failure

/-- A value that may be absent: nothing, written plain, is. -/
def optional (d : Document) (read : Node → Reading α) (n : Node) : Reading (Option α) := do
  let n ← d.resolve n
  match n with
  | .scalar p .plain s =>
    match p.tag with
    | none => if s.isEmpty || saysNull s then return none else some <$> read n
    | some tag =>
      if tag == nullTag then if saysNull s then return none else failure
      else some <$> read n
  | _ => some <$> read n

/-- The items of a list. -/
def items (d : Document) (n : Node) : Reading (List Node) := do
  match ← d.resolve n with
  | .sequence _ items => return items
  | .scalar _ .plain "" => return []
  | _ => failure

/-- A list of values that can all be read. -/
def list (d : Document) (read : Node → Reading α) (n : Node) : Reading (List α) := do
  (← d.items n).mapM read

/-! ### Records -/

/-- The fields that were given, by name. -/
abbrev Fields := List (String × Node)

/-- Go through entries: keys are texts, unknown ones are skipped, and a known one is taken once. -/
def collect (d : Document) (known : List String) : List (Node × Node) → Reading Fields
  | [] => return []
  | (k, v) :: rest => do
    let key ← d.text k
    let fields ← collect d known rest
    if known.contains key then
      if fields.any (·.1 == key) then failure else return (key, v) :: fields
    else return fields

/-- The fields of a record. -/
def fields (d : Document) (known : List String) (n : Node) : Reading Fields := do
  match ← d.resolve n with
  | .mapping _ entries => d.collect known entries
  | .scalar _ .plain "" => return []
  | _ => failure

/-- A field that has to be given. -/
def Fields.required (fs : Fields) (name : String) (read : Node → Reading α) : Reading α :=
  match fs.lookup name with
  | some n => read n
  | none => failure

/-- A field that has a default. -/
def Fields.defaulting (fs : Fields) (name : String) (default : α) (read : Node → Reading α) :
    Reading α :=
  match fs.lookup name with
  | some n => read n
  | none => return default

/-! ### Numbers and choices -/

/-- The text of a scalar that is written plain, or as a literal block under a tag. -/
def plainText (d : Document) (tag : String) (n : Node) : Reading String := do
  match ← d.resolve n with
  | .scalar _ .plain s => return s
  | .scalar p .literal s => if p.tag == some tag then return s else failure
  | _ => failure

/-- The digits of a number in a base. -/
def number? (base : Nat) (cs : List Char) : Option Nat :=
  let digit? (c : Char) : Option Nat :=
    (hexValue? ⟨c, false, 0, 0, 0⟩).filter (· < base)
  if cs.isEmpty then none
  else cs.foldlM (fun n c => (digit? c).map (n * base + ·)) 0

/-- A natural number: with a plus sign or without one, in base 10 without superfluous zeros, or
in base 16, 8 or 2 behind a mark. -/
def natural? (s : String) : Option Nat :=
  let cs := match s.toList with
    | '+' :: rest => rest
    | cs => cs
  match cs with
  | '0' :: 'x' :: digits => number? 16 digits
  | '0' :: 'o' :: digits => number? 8 digits
  | '0' :: 'b' :: digits => number? 2 digits
  | '0' :: _ :: _ => none
  | digits => number? 10 digits

/-- An unsigned integer up to a greatest one. -/
def unsigned (d : Document) (greatest : Nat) (n : Node) : Reading Nat := do
  ((natural? (← d.plainText intTag n)).filter (· ≤ greatest) : Option Nat)

/-- A truth value. -/
def bool (d : Document) (n : Node) : Reading Bool := do
  let s ← d.plainText boolTag n
  if s == "true" || s == "True" || s == "TRUE" then return true
  else if s == "false" || s == "False" || s == "FALSE" then return false
  else failure

/-- The name that a choice is written by: a scalar, or a tag of its own on nothing. -/
def choice (d : Document) (n : Node) : Reading String := do
  match ← d.resolve n with
  | .scalar p style s =>
    match p.tag.map String.toList with
    | some ('!' :: name) =>
      if style = .plain && (s.isEmpty || saysNull s) then return String.ofList name else failure
    | _ => return s
  | _ => failure

end Document

end SliceSelection.Yaml
