import SliceSelection.Lifecycle.Rehearsal
import SliceSelection.SliceStream.Rehearsal

/-!
# Rehearsals of the daemon

The coordinator and the ingestion of configuration run together on one clock and share one board.
Shutdown cancels both: ingestion ends at once, the coordinator when the call under way is
answered, and then the instance is deregistered.
-/

namespace SliceSelection.Daemon

open Lifecycle

/-- A look at the daemon: the time, the coordinator, and the store. -/
structure Peek where
  now : Nat
  coordinator : Coordinator
  store : SliceConfig

/-- The daemon under way. -/
structure Rehearsal (σ : Type) where
  lifecycle : Lifecycle.Rehearsal σ
  /-- The watcher, if configuration is streamed. -/
  watcher : Option SliceStream.Rehearsal
  /-- What was seen when looked at, the last one first. -/
  peeks : List Peek

namespace Rehearsal

variable {σ : Type}

/-- The time. -/
def now (r : Rehearsal σ) : Nat := r.lifecycle.coordinator.now

/-- The board. -/
def board (r : Rehearsal σ) : Board := r.lifecycle.coordinator.board

/-- Look at the daemon. -/
def peek (r : Rehearsal σ) : Rehearsal σ :=
  { r with peeks := ⟨r.now, r.lifecycle.coordinator, r.board.store⟩ :: r.peeks }

/-- Let ingestion do what it does at this instant. -/
def ingest (r : Rehearsal σ) : Option (Rehearsal σ) :=
  match r.watcher with
  | none => none
  | some w =>
    match w.move r.board with
    | none => none
    | some (w, b) => some { r with watcher := some w, lifecycle := r.lifecycle.fire (.board b) }

/-- What happens next at this instant: ingestion goes first, and shutdown goes on when listening
has ended. -/
def move (r : Rehearsal σ) : Option (Rehearsal σ) :=
  match r.ingest with
  | some r => some r
  | none =>
    match r.lifecycle.move with
    | some l => some { r with lifecycle := l }
    | none =>
      if r.lifecycle.coordinator.stage = .stopped then
        some { r with lifecycle := r.lifecycle.fire .deregister }
      else none

/-- Let the clock go on to a time. -/
def advance (r : Rehearsal σ) (t : Nat) : Rehearsal σ :=
  { r with
    lifecycle := r.lifecycle.advance t
    watcher := r.watcher.map fun w => { w with now := t } }

/-- Begin the shutdown. -/
def cancel (r : Rehearsal σ) : Rehearsal σ :=
  { r with
    lifecycle := r.lifecycle.fire .cancel
    watcher := r.watcher.map fun w => { w with cancelled := true } }

/-- Look at the daemon as often as its time has come. -/
def givePeeks (r : Rehearsal σ) : List Nat → Rehearsal σ × List Nat
  | [] => (r, [])
  | t :: peeks => if t ≤ r.now then r.peek.givePeeks peeks else (r, t :: peeks)

/-- Play at most a number of moves. -/
def playWithin (stop : Nat) : Nat → List Nat → Rehearsal σ → Rehearsal σ
  | 0, _, r => r
  | moves + 1, peeks, r =>
    let (r, peeks) := r.givePeeks peeks
    let r := if peeks.isEmpty && stop ≤ r.now then r.cancel else r
    if r.lifecycle.coordinator.stage = .ended then r
    else match r.move with
      | some r => playWithin stop moves peeks r
      | none =>
        let next := r.lifecycle.wakeups ++ (r.watcher.bind (·.wakeup)).toList ++
          peeks.head?.toList ++ [stop]
        match (next.filter (r.now < ·)).min? with
        | some t => playWithin stop moves peeks (r.advance t)
        | none => r

/-- Play from the start through the shutdown that begins at a time. -/
def run (r : Rehearsal σ) (size stop : Nat) (peeks : List Nat) : Rehearsal σ :=
  playWithin stop (16 * (size + (r.watcher.map (·.size)).getD 0 + stop + peeks.foldl max 0 + 16))
    peeks r

/-- The outcome of the deregistration, once it has ended. -/
def outcome (r : Rehearsal σ) : Option Registry.DeregisterOutcome :=
  match r.lifecycle.answers.head? with
  | some (.deregister outcome) => some outcome
  | _ => none

end Rehearsal

end SliceSelection.Daemon
