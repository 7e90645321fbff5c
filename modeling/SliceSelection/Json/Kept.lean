import SliceSelection.Json.Document
import SliceSelection.Json.Magnitude

/-!
# Values that are kept

A value whose shape is not known beforehand is kept in one form: the members of an object are
ordered by key, and of several members with one key the last stays. Such a value nests to a
bounded depth, every literal in it stands for a text, and every number fits into a double.
-/

namespace SliceSelection.Json

/-- Put a member into members that are ordered by key, in place of one with its key. -/
def insertMember (key : String) (j : Json) :
    List (Option String × Json) → List (Option String × Json)
  | [] => [(some key, j)]
  | (other, i) :: rest =>
    let name := other.getD ""
    if key < name then (some key, j) :: (other, i) :: rest
    else if key = name then (some key, j) :: rest
    else (other, i) :: insertMember key j rest

mutual

/-- The kept form of a value that nests to at most a depth. -/
def keep? (depth : Nat) : Json → Option Json
  | .null => some .null
  | .bool b => some (.bool b)
  | .int n => some (.int n)
  | .decimal literal =>
    if (Magnitude.ofLiteral literal.toList).isFinite then some (.decimal literal) else none
  | .string text => text.map ofString
  | .array items =>
    match depth with
    | 0 => none
    | depth + 1 => (keepItems? depth items).map .array
  | .object members =>
    match depth with
    | 0 => none
    | depth + 1 => (keepMembers? depth members).map fun ms =>
        .object (ms.foldl (fun kept m => insertMember m.1 m.2 kept) [])

/-- The kept forms of items. -/
def keepItems? (depth : Nat) : List Json → Option (List Json)
  | [] => some []
  | j :: items => do return (← keep? depth j) :: (← keepItems? depth items)

/-- The keys and kept values of members. -/
def keepMembers? (depth : Nat) : List (Option String × Json) → Option (List (String × Json))
  | [] => some []
  | (key, j) :: members => do
    return (← key, ← keep? depth j) :: (← keepMembers? depth members)

end

end SliceSelection.Json
