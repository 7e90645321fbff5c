import SliceSelection.Plmn

/-!
# The channel of announced networks

A channel of one slot carries the supported networks from the ingestion of configuration to
whoever announces them. Publishing replaces the value, read or not, so a reader who comes late
sees the latest list only. Closing the channel keeps an unread value readable.
-/

namespace SliceSelection

/-- A single-slot channel that holds the latest list and whether it was read. -/
structure Channel where
  /-- The list published last, or the empty one. -/
  latest : List PlmnId
  /-- Whether `latest` was published after the last read. -/
  unread : Bool
  /-- Whether nothing will be published any more. -/
  closed : Bool
deriving DecidableEq, Repr

namespace Channel

/-- A channel on which nothing was published yet. -/
def empty : Channel := ⟨[], false, false⟩

/-- Put a list in place of the one held, unread. -/
def publish (c : Channel) (ps : List PlmnId) : Channel := { c with latest := ps, unread := true }

/-- Mark the value held as read. -/
def markRead (c : Channel) : Channel := { c with unread := false }

/-- Announce that nothing will be published any more. -/
def close (c : Channel) : Channel := { c with closed := true }

/-- Take the unread list, if there is one. -/
def take (c : Channel) : Option (List PlmnId) × Channel :=
  if c.unread then (some c.latest, c.markRead) else (none, c)

@[simp] theorem take_publish (c : Channel) (ps : List PlmnId) :
    (c.publish ps).take = (some ps, (c.publish ps).markRead) := rfl

@[simp] theorem take_markRead (c : Channel) : c.markRead.take = (none, c.markRead) := rfl

end Channel

end SliceSelection
