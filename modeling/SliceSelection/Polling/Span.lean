/-!
# Spans of time

A span of time is a number of whole seconds that fits into 64 bits and less than a second of
nanoseconds. Doubling a span may leave that range, and then it gives nothing.
-/

namespace SliceSelection

/-- The number of nanoseconds in a second. -/
def nanosPerSecond : Nat := 1000000000

/-- A span of time. -/
structure Span where
  /-- The whole seconds. -/
  seconds : UInt64
  /-- The nanoseconds beyond them. -/
  nanos : UInt32
deriving DecidableEq, Repr

namespace Span

/-- The span of a number of whole seconds. -/
def ofSeconds (seconds : UInt64) : Span := ⟨seconds, 0⟩

/-- The span of seconds and nanoseconds, of which whole seconds are carried. -/
def ofParts (seconds : UInt64) (nanos : UInt32) : Span :=
  ⟨seconds + .ofNat (nanos.toNat / nanosPerSecond), .ofNat (nanos.toNat % nanosPerSecond)⟩

/-- A span in nanoseconds. -/
def toNanos (d : Span) : Nat := nanosPerSecond * d.seconds.toNat + d.nanos.toNat

/-- The span of a number of nanoseconds, if it is in range. -/
def ofNanos? (n : Nat) : Option Span :=
  if n / nanosPerSecond < UInt64.size then
    some ⟨.ofNat (n / nanosPerSecond), .ofNat (n % nanosPerSecond)⟩
  else none

/-- Twice a span, if it is in range. -/
def double? (d : Span) : Option Span := ofNanos? (2 * d.toNanos)

/-- The shorter of two spans. -/
def shorter (d e : Span) : Span := if d.toNanos ≤ e.toNanos then d else e

end Span

end SliceSelection
