/-!
# The heartbeat timer

The timer runs out once after each time it is armed, and what it posts carries the generation of
that arming. Arming and stopping begin a new generation, so an expiry that was posted but not
taken yet can be told from the one that counts. A timer that was stopped is never armed again.
Times are milliseconds on one clock.
-/

namespace SliceSelection.Lifecycle

/-- The seconds between two heartbeats where the registry says nothing. -/
def defaultHeartbeat : Nat := 60

/-- A number of seconds that sets an interval: zero sets none. -/
def positiveSeconds (seconds : Option UInt32) : Option Nat :=
  seconds.bind fun s => if s = 0 then none else some s.toNat

/-- The heartbeat timer. -/
structure Heartbeat where
  /-- The seconds of the last arming. -/
  interval : Option Nat
  /-- The number of armings and stops, of which fewer than 2 ^ 64 are assumed. -/
  generation : Nat
  /-- When the timer runs out, while it is running. -/
  due : Option Nat
  stopped : Bool
  /-- The generations that were posted and not taken, the oldest first. -/
  posted : List Nat
deriving DecidableEq, Repr

namespace Heartbeat

/-- A timer that was never armed. -/
def idle : Heartbeat := ⟨none, 0, none, false, []⟩

/-- Whether an expiry of a generation is the one that counts. -/
def isCurrent (h : Heartbeat) (generation : Nat) : Bool := !h.stopped && h.generation == generation

/-- The generation whose expiry counts. -/
def current (h : Heartbeat) : Option Nat := if h.stopped then none else some h.generation

/-- The seconds that an arming which left the timer like this tells: none if it was stopped. -/
def armed (h : Heartbeat) : Option Nat := if h.stopped then none else h.interval

/-! ### Arming -/

/-- Arm the timer for a number of seconds, unless it was stopped. -/
def arm (h : Heartbeat) (now seconds : Nat) : Heartbeat :=
  if h.stopped then h
  else { h with
    interval := some seconds
    generation := h.generation + 1
    due := some (now + 1000 * seconds) }

/-- Arm the timer behind a registration: a missing interval is the default one. -/
def start (h : Heartbeat) (now : Nat) (seconds : Option UInt32) : Heartbeat :=
  h.arm now ((positiveSeconds seconds).getD defaultHeartbeat)

/-- Arm the timer behind a heartbeat: a missing interval is the one before. -/
def refresh (h : Heartbeat) (now : Nat) (seconds : Option UInt32) : Heartbeat :=
  h.arm now (((positiveSeconds seconds).or h.interval).getD defaultHeartbeat)

/-- Stop the timer for good. -/
def stop (h : Heartbeat) : Heartbeat :=
  { h with stopped := true, generation := h.generation + 1, due := none }

/-! ### Running out -/

/-- Let the time come: a timer that has run out posts its generation. -/
def elapse (h : Heartbeat) (now : Nat) : Heartbeat :=
  match h.due with
  | some t => if t ≤ now then { h with due := none, posted := h.posted ++ [h.generation] } else h
  | none => h

/-- Take the oldest expiry that was posted. -/
def take (h : Heartbeat) : Option (Nat × Heartbeat) :=
  match h.posted with
  | [] => none
  | g :: gs => some (g, { h with posted := gs })

/-- When the waiting for an expiry ends. -/
def wakes (h : Heartbeat) (now limit : Nat) : Nat :=
  match h.posted, h.due with
  | _ :: _, _ => now
  | [], some t => min (max now t) limit
  | [], none => limit

/-- Wait for an expiry until a time: the expiry, if one comes, and when the waiting ends. -/
def await (h : Heartbeat) (now limit : Nat) : Option Nat × Nat × Heartbeat :=
  let stop := h.wakes now limit
  match (h.elapse stop).take with
  | some (g, h) => (some g, stop, h)
  | none => (none, stop, h.elapse stop)

end Heartbeat

end SliceSelection.Lifecycle
