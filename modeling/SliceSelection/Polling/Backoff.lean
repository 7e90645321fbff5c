import SliceSelection.Polling.Span

/-!
# Backing off

The interval between two polls doubles with every failure, up to a greatest one, and falls back
to the initial one with every success.
-/

namespace SliceSelection.Polling

/-- The interval behind another one when a poll failed. -/
def nextInterval (current max : Span) : Span :=
  match current.double? with
  | some d => d.shorter max
  | none => max

/-- The interval in force, with the bounds it moves in. -/
structure Backoff where
  initial : Span
  max : Span
  current : Span
deriving DecidableEq, Repr

namespace Backoff

/-- The backoff at the start. -/
def ofBounds (initial max : Span) : Backoff := ⟨initial, max, initial⟩

/-- The backoff that is used where none is set: from 5 to 40 seconds. -/
def default : Backoff := ofBounds (.ofSeconds 5) (.ofSeconds 40)

/-- The backoff behind a failure. -/
def onFailure (b : Backoff) : Backoff := { b with current := nextInterval b.current b.max }

/-- The backoff behind a success. -/
def onSuccess (b : Backoff) : Backoff := { b with current := b.initial }

end Backoff

end SliceSelection.Polling
