import SliceSelection.Ingest.WireList
import SliceSelection.Ingest.Channel

/-!
# Applying a configuration list

Every list replaces the whole configuration. The applier remembers the list it saw last, so that
a repeated list does nothing, and the networks it announced last, so that a list which only
moves slices around publishes nothing.
-/

namespace SliceSelection

/-- What ingestion and its readers share: the configuration in force and the channel on which
its networks are announced. -/
structure Board where
  store : SliceConfig
  channel : Channel
deriving DecidableEq

/-- A board on which nothing was published yet. -/
def Board.ofStore (store : SliceConfig) : Board := ⟨store, .empty⟩

/-- What applying a list did. -/
inductive ApplyOutcome where
  /-- The list is the one applied last. -/
  | unchanged
  /-- The list is now in force; its networks were published if they changed. -/
  | applied (plmnsChanged : Bool)
deriving DecidableEq, Repr

/-- The memory of the applier. -/
structure Applier where
  /-- The list applied last. -/
  lastList : Option (List WireEntry)
  /-- The networks announced last; at first those of the store it starts on. -/
  announced : List PlmnId
deriving DecidableEq, Repr

namespace Applier

/-- An applier that starts on a store. -/
def ofStore (store : SliceConfig) : Applier := ⟨none, store.plmns⟩

/-- Apply a list: unless it repeats the last one it replaces the slices in force, and where it
changes the announced networks, it replaces and publishes those too. -/
def apply (a : Applier) (list : List WireEntry) (b : Board) : ApplyOutcome × Applier × Board :=
  if a.lastList = some list then (.unchanged, a, b)
  else
    let c := SliceConfig.ofWire list
    if a.announced = c.plmns then
      (.applied false, { a with lastList := some list },
        { b with store := { b.store with slices := c.slices } })
    else
      (.applied true, ⟨some list, c.plmns⟩, ⟨c, b.channel.publish c.plmns⟩)

end Applier

end SliceSelection
