import Std.Data.ExtTreeMap
import Std.Data.ExtTreeSet
import SliceSelection.Plmn
import SliceSelection.Snssai

/-!
# Slices by network

A slice map gives each network it knows the set of slices served there. Two maps with the same
keys and the same sets are equal, whatever the order in which they were built, and listing a map
gives networks and slices in ascending order. A network with no slice is still a key.
-/

namespace SliceSelection

/-- A set of slices. -/
abbrev SliceSet := Std.ExtTreeSet Snssai

/-- The slices served in each network. -/
abbrev SliceMap := Std.ExtTreeMap PlmnId SliceSet

namespace SliceMap

/-- Add slices to those of a network, which becomes a key even if there are none to add. -/
def addSlices (m : SliceMap) (p : PlmnId) (slices : List Snssai) : SliceMap :=
  m.insert p (((m[p]?).getD ∅).insertMany slices)

/-- The map of a list of entries: entries of one network are joined. -/
def ofEntries (entries : List (PlmnId × List Snssai)) : SliceMap :=
  entries.foldl (fun m e => m.addSlices e.1 e.2) ∅

/-- Whether a slice is listed for a network. -/
def serves (m : SliceMap) (p : PlmnId) (s : Snssai) : Bool :=
  match m[p]? with
  | some slices => slices.contains s
  | none => false

/-- The entries in ascending order of network, each with its slices in ascending order. -/
def entries (m : SliceMap) : List (PlmnId × List Snssai) :=
  m.toList.map fun e => (e.1, e.2.toList)

end SliceMap

end SliceSelection
