import SliceSelection.Json.Record
import SliceSelection.Json.Kept

/-!
# Patches

A patch changes a document in the registry item by item: each item adds, removes or replaces the
value at a path. A heartbeat is a patch that sets the status once more.
-/

namespace SliceSelection.Registry

/-- What an item of a patch does. -/
inductive PatchOperation where
  | add | remove | replace
deriving DecidableEq, Repr

namespace PatchOperation

/-- All operations. -/
def all : List PatchOperation := [add, remove, replace]

/-- The name of an operation. -/
def name : PatchOperation → String
  | add => "add"
  | remove => "remove"
  | replace => "replace"

/-- The JSON form of an operation. -/
def toJson (o : PatchOperation) : Json := .ofString o.name

/-- Read an operation. -/
def ofJson? (j : Json) : Option PatchOperation :=
  j.choice?.bind fun n => all.find? (·.name == n)

end PatchOperation

/-- An item of a patch. -/
structure PatchItem where
  op : PatchOperation
  path : String
  /-- The new value, if the operation has one. -/
  value : Option Json
deriving Repr

namespace PatchItem

/-- The depth to which the value of an item may nest: an item is inside of nothing and takes one
of 127 levels. -/
def maxDepth : Nat := 126

/-- The JSON form of an item. -/
def toJson (i : PatchItem) : Json :=
  .record [("op", some i.op.toJson), ("path", some (.ofString i.path)), ("value", i.value)]

/-- Read an item: a value that is null counts as absent. -/
def ofJson? (j : Json) : Option PatchItem := do
  let fs ← j.fields? [⟨"op", false⟩, ⟨"path", false⟩, ⟨"value", false⟩]
  return ⟨← fs.required "op" PatchOperation.ofJson?, ← fs.required "path" Json.text?,
    ← fs.optional "value" (Json.keep? maxDepth)⟩

end PatchItem

/-- The patch that tells the registry that the function is alive. -/
def heartbeatPatch : List PatchItem := [⟨.replace, "/nfStatus", some (.ofString "REGISTERED")⟩]

end SliceSelection.Registry
