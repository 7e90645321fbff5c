import SliceSelection.Proofs.Lifecycle.Attempt
import SliceSelection.Proofs.Lifecycle.Timing

/-!
# What the stages tell

The stage of the coordinator tells the state of its registration as far as shutdown is concerned,
and whether its timer was stopped. While it listens, no notice is disregarded.
-/

namespace SliceSelection.Lifecycle

open Registry

/-- Listening has ended. -/
def Stage.isOver : Stage → Bool
  | stopped => true
  | deregistering => true
  | ended => true
  | _ => false

/-- The first registration is due or under way. -/
def Stage.isBooting : Stage → Bool
  | starting => true
  | retrying _ => true
  | registering .boot _ => true
  | _ => false

namespace Coordinator

/-- Stage, state and timer agree about shutdown. -/
structure Consistent (c : Coordinator) : Prop where
  deregistering : c.self.state = .deregistering ↔ c.stage = .deregistering
  stopped : c.self.state = .stopped ↔ c.stage = .ended
  timer : c.timer.stopped = c.stage.isOver
  cancelled : c.stage.isOver = true → c.cancelled = true

namespace Consistent

variable {c : Coordinator}

lemma isOver (h : c.Consistent) (going : c.cancelled = false) : c.stage.isOver = false := by
  cases ended : c.stage.isOver
  · rfl
  · exact absurd (h.cancelled ended) (by simp [going])

lemma running (h : c.Consistent) (going : c.cancelled = false) : c.timer.stopped = false :=
  h.timer.trans (h.isOver going)

/-- Until shutdown the state is not final. -/
lemma unfinished (h : c.Consistent) (going : c.cancelled = false) :
    c.self.state.isFinal = false := by
  have ended := h.isOver going
  have deregistering := h.deregistering
  have stopped := h.stopped
  cases state : c.self.state <;> simp_all [State.isFinal, Stage.isOver]

end Consistent

namespace Rule

variable {c c' : Coordinator} {e : Event} {calls : List Call}

/-- Every rule keeps stage, state and timer in agreement. -/
lemma consistent (rule : Rule c e c' calls) (h : c.Consistent) : c'.Consistent := by
  obtain ⟨deregistering, stopped, timer, cancelled⟩ := h
  cases rule <;> constructor <;>
    simp_all [Instance.withState, Stage.isOver, Heartbeat.stop]

/-- Behind the first registration no other rule begins it again. -/
lemma booted (rule : Rule c e c' calls) (h : c.stage.isBooting = false) :
    c'.stage.isBooting = false := by
  cases rule <;> simp_all [Stage.isBooting]

/-- Cancelling is for good. -/
lemma cancelled (rule : Rule c e c' calls) (h : c.cancelled = true) : c'.cancelled = true := by
  cases rule with
  | cancel => rfl
  | _ => exact h

lemma going (rule : Rule c e c' calls) (h : c'.cancelled = false) : c.cancelled = false := by
  cases before : c.cancelled
  · rfl
  · exact absurd (rule.cancelled before) (by simp [h])

end Rule

end Coordinator

/-- Stage, state and timer agree throughout every run. -/
lemma Run.consistent {s : System} {history : List Moment} {self : Instance} {store : SliceConfig}
    {retryDelay : Nat} (run : Run (.ofInstance self store retryDelay) history s) :
    s.Consistent := by
  refine run.keeps_rule (fun rule h => rule.consistent h) ?_
  constructor <;> simp [System.ofInstance, Coordinator.ofInstance, Instance.withState,
    Stage.isOver, Heartbeat.idle]

/-! ### Between the first registration and shutdown -/

/-- The first registration was accepted, and shutdown has not begun. -/
structure System.IsSteady (s : System) : Prop where
  consistent : s.Consistent
  bounded : s.timer.Bounded
  punctual : s.PunctualAt s.now
  booted : s.stage.isBooting = false
  going : s.cancelled = false

variable {s s' s₁ : System} {h : Happening} {calls : List Call} {earlier later : List Moment}
  {m : Moment} {sent : Profile} {self : Instance} {store : SliceConfig} {retryDelay : Nat}

lemma Change.going (change : Change s h s' calls) (going : s'.cancelled = false) :
    s.cancelled = false := by
  obtain ⟨e, rule⟩ := change.rule
  exact rule.going going

/-- A change leaves a steady system steady until shutdown. -/
lemma Change.steady (change : Change s h s' calls) (steady : s.IsSteady)
    (going : s'.cancelled = false) : s'.IsSteady := by
  obtain ⟨e, rule⟩ := change.rule
  exact ⟨rule.consistent steady.consistent, rule.bounded steady.bounded,
    rule.punctual steady.punctual, rule.booted steady.booted, going⟩

namespace Run

/-- Behind the acceptance of the first registration the system is steady. -/
lemma steady (boot : Run (.ofInstance self store retryDelay) (m :: earlier) s₁)
    (accepted : m.AcceptsBoot sent) (going : s₁.cancelled = false) : s₁.IsSteady := by
  have booted : s₁.stage.isBooting = false := by
    cases boot with
    | next _ _ =>
      have listens : s₁.stage = .listening := accepted.2
      rw [listens]
      rfl
  exact ⟨boot.consistent, boot.bounded, boot.punctual, booted, going⟩

/-- What goes on at the end of a run went on at its start. -/
lemma going (run : Run s₁ later s) (h : s.cancelled = false) : s₁.cancelled = false := by
  induction run with
  | start => exact h
  | next _ step ih => exact ih ((Change.of_step step).going h)

/-- A steady system stays so until shutdown. -/
lemma stays_steady (run : Run s₁ later s) (steady : s₁.IsSteady) (going : s.cancelled = false) :
    s.IsSteady := by
  induction run with
  | start => exact steady
  | next _ step ih =>
    have change := Change.of_step step
    exact change.steady (ih (change.going going)) going

/-- What holds of a steady system, and what every change keeps while the system is steady, holds
of every run until shutdown. -/
lemma while_steady {P : List Moment → System → Prop} (run : Run s₁ later s)
    (steady : s₁.IsSteady) (going : s.cancelled = false) (start : P [] s₁)
    (next : ∀ {later s h s' calls}, Run s₁ later s → s.IsSteady → s'.IsSteady →
      Change s h s' calls → P later s → P (⟨s, h, calls, s'⟩ :: later) s') : P later s := by
  induction run with
  | start => exact start
  | next run step ih =>
    have change := Change.of_step step
    have before := run.stays_steady steady (change.going going)
    exact next run before (change.steady before going) change (ih (change.going going))

end Run

end SliceSelection.Lifecycle
