import SliceSelection.Lifecycle.Coordinator

/-!
# Rehearsals of the coordinator

A rehearsal runs the coordinator on a clock of its own against a registry that follows a script:
for every call the script says when the answer comes and what it is. What happens from outside
is a list of cues, each at a time. Within one instant first the cues are given and then the
coordinator acts until it waits; then the clock goes on to the next time at which something is
due.
-/

namespace SliceSelection.Lifecycle

open Registry

/-- A value that comes some milliseconds later. -/
structure Delayed (α : Type) where
  latency : Nat
  value : α
deriving Repr

/-- The script of a registry: the answers to the calls of each kind, in order. -/
structure RegistryScript where
  registers : List (Delayed RegisterOutcome)
  updates : List (Delayed UpdateOutcome)
  deregisters : List (Delayed DeregisterOutcome)

/-- The answer to a call, and the script behind it. A script that has run out accepts at once. -/
def RegistryScript.respond (s : RegistryScript) : Call → Delayed Answer × RegistryScript
  | .register _ _ =>
    let d := s.registers.headD ⟨0, .updated none⟩
    (⟨d.latency, .register d.value⟩, { s with registers := s.registers.tail })
  | .update _ _ =>
    let d := s.updates.headD ⟨0, .success none⟩
    (⟨d.latency, .update d.value⟩, { s with updates := s.updates.tail })
  | .deregister _ =>
    let d := s.deregisters.headD ⟨0, .success⟩
    (⟨d.latency, .deregister d.value⟩, { s with deregisters := s.deregisters.tail })

/-- The number of answers in a script. -/
def RegistryScript.size (s : RegistryScript) : Nat :=
  s.registers.length + s.updates.length + s.deregisters.length

/-- What happens from outside. -/
inductive Cue where
  /-- The board is changed. -/
  | board (change : Board → Board)
  | cancel
  /-- The state is looked at. -/
  | peek

/-- A rehearsal that is under way. -/
structure Rehearsal (σ : Type) where
  /-- How the registry follows its script. -/
  respond : σ → Call → Delayed Answer × σ
  script : σ
  coordinator : Coordinator
  /-- The answer to the call under way, and when it comes. -/
  awaited : Option (Nat × Answer)
  /-- The calls that were made, the last one first, each with its time. -/
  calls : List (Nat × Call)
  /-- The answers that were given, the last one first. -/
  answers : List Answer
  /-- What was seen when looked at, the last one first. -/
  peeks : List Coordinator

namespace Rehearsal

variable {σ : Type}

/-- A rehearsal before anything happened. -/
def ofCoordinator (respond : σ → Call → Delayed Answer × σ) (script : σ) (c : Coordinator) :
    Rehearsal σ :=
  ⟨respond, script, c, none, [], [], []⟩

/-! ### Moves -/

/-- Make a call: the registry follows its script. -/
def call (r : Rehearsal σ) (k : Call) : Rehearsal σ :=
  let (d, script) := r.respond r.script k
  { r with
    script := script
    awaited := some (r.coordinator.now + d.latency, d.value)
    calls := (r.coordinator.now, k) :: r.calls }

/-- Take what an event did to the coordinator. -/
def taking (r : Rehearsal σ) : Coordinator × List Call → Rehearsal σ
  | (c, calls) => calls.foldl call { r with coordinator := c }

/-- Let an event happen, if it is enabled. -/
def fire (r : Rehearsal σ) (e : Coordinator.Event) : Rehearsal σ :=
  match r.coordinator.step e with
  | some result => r.taking result
  | none => r

/-- The answer that has come. -/
def arrived (r : Rehearsal σ) : Option Answer :=
  match r.awaited with
  | some (t, a) => if t ≤ r.coordinator.now then some a else none
  | none => none

/-- What happens next at this instant: an answer comes, or the coordinator acts. -/
def move (r : Rehearsal σ) : Option (Rehearsal σ) :=
  match r.arrived with
  | some a => some ({ r with awaited := none, answers := a :: r.answers }.fire (.answer a))
  | none =>
    match r.coordinator.act with
    | some result => some (r.taking result)
    | none => r.coordinator.retry.map r.taking

/-- The times at which something is due. -/
def wakeups (r : Rehearsal σ) : List Nat :=
  r.coordinator.deadlines ++ (r.awaited.map (·.1)).toList

/-- Let the clock go on to a time. -/
def advance (r : Rehearsal σ) (t : Nat) : Rehearsal σ := r.fire (.elapse (t - r.coordinator.now))

/-- Give a cue. -/
def give (r : Rehearsal σ) : Cue → Rehearsal σ
  | .board change => r.fire (.board (change r.coordinator.board))
  | .cancel => r.fire .cancel
  | .peek => { r with peeks := r.coordinator :: r.peeks }

/-! ### Playing -/

/-- Give the cues whose time has come, up to the first that is still to come. -/
def giveDue (r : Rehearsal σ) : List (Nat × Cue) → Rehearsal σ × List (Nat × Cue)
  | [] => (r, [])
  | (t, cue) :: cues =>
    if t ≤ r.coordinator.now then (r.give cue).giveDue cues else (r, (t, cue) :: cues)

/-- Play at most a number of moves, until an end that may depend on the cues still to come. -/
def playWithin (isOver : Rehearsal σ → List (Nat × Cue) → Bool) :
    Nat → List (Nat × Cue) → Rehearsal σ → Rehearsal σ
  | 0, _, r => r
  | moves + 1, cues, r =>
    let (r, cues) := r.giveDue cues
    if isOver r cues then r
    else match r.move with
      | some r => playWithin isOver moves cues r
      | none =>
        match (r.wakeups ++ (cues.head?.map (·.1)).toList).min? with
        | some t => playWithin isOver moves cues (r.advance t)
        | none => r

/-- A number of moves that is enough for a script of a size, cues and a stretch of time: a heartbeat
comes at most once a second. -/
def enough (size : Nat) (cues : List (Nat × Cue)) (now : Nat) : Nat :=
  16 * (size + cues.length + (cues.foldl (fun t cue => max t cue.1) now - now) + 16)

/-- Play until listening has ended and all cues are given. -/
def run (r : Rehearsal σ) (size : Nat) (cues : List (Nat × Cue)) : Rehearsal σ :=
  playWithin (fun r cues => cues.isEmpty && r.coordinator.stage = .stopped)
    (enough size cues r.coordinator.now) cues r

/-! ### Single steps

Between single steps the coordinator is held: it listens to nothing, and what the timer posts
stays posted. -/

/-- Hold the coordinator. -/
def hold (r : Rehearsal σ) : Rehearsal σ :=
  { r with coordinator := { r.coordinator with stage := .stopped } }

/-- Play until the coordinator would listen, or has ended, and hold it there. -/
def finish (r : Rehearsal σ) (size : Nat) (cues : List (Nat × Cue)) : Rehearsal σ :=
  (playWithin (fun r _ => r.coordinator.stage = .listening || r.coordinator.stage = .stopped ||
    r.coordinator.stage = .ended) (enough size cues r.coordinator.now) cues r).hold

/-- The registration at the start, given up when cancelled some milliseconds later; and whether
the instance is registered. -/
def boot (r : Rehearsal σ) (size : Nat) (cancelAfter : Option Nat) : Bool × Rehearsal σ :=
  let cues := cancelAfter.toList.map fun k => (r.coordinator.now + k, Cue.cancel)
  let c := { r.coordinator with stage := .starting, cancelled := false }
  let r := { r with coordinator := c }.finish size cues
  (r.coordinator.self.state = .registered, r)

/-- Let the coordinator do something. -/
def perform (r : Rehearsal σ) (size : Nat) (f : Coordinator → Coordinator × List Call) :
    Rehearsal σ :=
  (r.taking (f r.coordinator)).finish size []

/-- Let the coordinator handle a notice. -/
def notice (r : Rehearsal σ) (size : Nat) (n : Notice) : Rehearsal σ := r.perform size (·.handle n)

/-- Deregister; and the outcome. -/
def deregister (r : Rehearsal σ) (size : Nat) : Option DeregisterOutcome × Rehearsal σ :=
  let r := r.perform size (·.deregister)
  match r.answers.head? with
  | some (.deregister outcome) => (some outcome, r)
  | _ => (none, r)

/-- Let time pass. -/
def wait (r : Rehearsal σ) (milliseconds : Nat) : Rehearsal σ :=
  let t := r.coordinator.now + milliseconds
  playWithin (fun r _ => r.coordinator.now = t) (enough 0 [] milliseconds) [(t, .peek)] r

end Rehearsal

end SliceSelection.Lifecycle
