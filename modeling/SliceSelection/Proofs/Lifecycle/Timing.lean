import SliceSelection.Proofs.Lifecycle.Heartbeat
import SliceSelection.Proofs.Lifecycle.Run

/-!
# Time and the timer

A rule lets time pass, takes an expiry, arms the timer, stops it, or does none of this. Time stops
short of whatever is due, so nothing is ever overdue.
-/

namespace SliceSelection.Lifecycle

open Registry

namespace Coordinator

variable {c c' : Coordinator} {e : Event} {calls : List Call}

/-- What a rule does to the time and the timer. -/
inductive Timing (c c' : Coordinator) : Prop where
  | still (now : c'.now = c.now) (timer : c'.timer = c.timer)
  | approach (k : Nat) (may : c.mayPass k) (now : c'.now = c.now + k) (timer : c'.timer = c.timer)
  | elapse (k : Nat) (may : c.mayPass k) (now : c'.now = c.now + k)
      (timer : c'.timer = c.timer.elapse (c.now + k))
  | take (g : Nat) (gs : List Nat) (posted : c.timer.posted = g :: gs) (now : c'.now = c.now)
      (timer : c'.timer = { c.timer with posted := gs })
  | arm (seconds : Nat) (now : c'.now = c.now) (timer : c'.timer = c.timer.arm c.now seconds)
  | stop (now : c'.now = c.now) (timer : c'.timer = c.timer.stop)

lemma Rule.timing (rule : Rule c e c' calls) : Timing c c' := by
  cases rule with
  | elapse may => exact .elapse _ may rfl rfl
  | approach may => exact .approach _ may rfl rfl
  | stop => exact .stop rfl rfl
  | beat _ _ _ posted | ignore _ _ _ posted => exact .take _ _ posted rfl rfl
  | accepted | refusedAgain | kept => exact .arm _ rfl rfl
  | _ => exact .still rfl rfl

/-- The timer grows older: it was neither armed nor stopped. -/
structure Ages (c c' : Coordinator) : Prop where
  stopped : c'.timer.stopped = c.timer.stopped
  generation : c'.timer.generation = c.timer.generation
  now : c.now ≤ c'.now
  due : ∀ t, c'.timer.due = some t → c.timer.due = some t
  posted : ∀ g ∈ c'.timer.posted, g ∈ c.timer.posted ∨
    g = c.timer.generation ∧ ∃ t, c.timer.due = some t ∧ t ≤ c'.now
  live : c'.timer.live ≤ c.timer.live

lemma Ages.of_eq (now : c.now ≤ c'.now) (timer : c'.timer = c.timer) : Ages c c' := by
  refine ⟨by rw [timer], by rw [timer], now, ?_, ?_, Nat.le_of_eq (by rw [timer])⟩
  · intro t due
    rwa [timer] at due
  · intro g mem
    rw [timer] at mem
    exact .inl mem

/-- The timer is armed, or it is stopped, or it grows older. -/
lemma Timing.ages (timing : Timing c c') :
    (∃ seconds, c'.now = c.now ∧ c'.timer = c.timer.arm c.now seconds) ∨
      c'.timer = c.timer.stop ∨ Ages c c' := by
  cases timing with
  | arm seconds now timer => exact .inl ⟨seconds, now, timer⟩
  | stop _ timer => exact .inr (.inl timer)
  | still now timer => exact .inr (.inr (.of_eq (Nat.le_of_eq now.symm) timer))
  | approach k _ now timer => exact .inr (.inr (.of_eq (now ▸ Nat.le_add_right _ _) timer))
  | elapse k _ now timer =>
    refine .inr (.inr ⟨?_, ?_, now ▸ Nat.le_add_right _ _, ?_, ?_, ?_⟩) <;> rw [timer]
    · exact Heartbeat.stopped_elapse
    · exact Heartbeat.generation_elapse
    · intro t
      exact Heartbeat.due_elapse
    · intro g mem
      exact now ▸ Heartbeat.mem_posted_elapse mem
    · exact Nat.le_of_eq Heartbeat.live_elapse
  | take g gs posted now timer =>
    refine .inr (.inr ⟨?_, ?_, Nat.le_of_eq now.symm, ?_, ?_, ?_⟩) <;> rw [timer]
    · intro t due
      exact due
    · intro g' mem
      exact .inl (posted ▸ List.mem_cons_of_mem g mem)
    · rw [Heartbeat.live_tail posted]
      exact Nat.le_add_right _ _

/-- Nothing is overdue at a time. -/
structure PunctualAt (c : Coordinator) (now : Nat) : Prop where
  timer : ∀ t, c.timer.due = some t → now ≤ t
  attempt : ∀ t, c.stage = .retrying t → now ≤ t

/-- Time passes only while the coordinator waits, and not beyond what is due. -/
lemma mayPass_iff {k : Nat} :
    c.mayPass k = true ↔ c.isWaiting = true ∧ c.PunctualAt (c.now + k) := by
  have deadlines : (∀ t ∈ c.deadlines, c.now + k ≤ t) ↔ c.PunctualAt (c.now + k) := by
    constructor
    · intro all
      constructor
      · intro t due
        exact all t (by simp [deadlines, due])
      · intro t stage
        exact all t (by simp [deadlines, stage])
    · rintro ⟨timer, attempt⟩ t mem
      rcases List.mem_append.mp mem with mem | mem
      · exact timer t (Option.mem_toList.mp mem)
      · split at mem
        · next due stage => exact attempt t (List.mem_singleton.mp mem ▸ stage)
        · cases mem
  simp [mayPass, ← deadlines]

/-- Time does not pass while there is something to do. -/
lemma mayPass_of_act (acts : c.act.isSome = true) (k : Nat) : c.mayPass k = false := by
  obtain ⟨next, acts⟩ := Option.isSome_iff_exists.mp acts
  simp [mayPass, isWaiting, acts]

namespace Rule

lemma timerPunctual (rule : Rule c e c' calls) (h : c.PunctualAt c.now) {t : Nat}
    (due : c'.timer.due = some t) : c'.now ≤ t := by
  cases rule.timing with
  | still now timer | take _ _ _ now timer =>
    rw [timer] at due
    exact now ▸ h.timer t due
  | approach k may now timer =>
    rw [timer] at due
    exact now ▸ (mayPass_iff.mp may).2.timer t due
  | elapse k may now timer =>
    rw [timer] at due
    exact now ▸ (mayPass_iff.mp may).2.timer t (Heartbeat.due_elapse due)
  | arm seconds now timer =>
    rw [timer] at due
    rcases Heartbeat.due_arm due with due | rfl
    · exact now ▸ h.timer t due
    · exact now ▸ Nat.le_add_right _ _
  | stop now timer =>
    rw [timer] at due
    cases due

lemma attemptPunctual (rule : Rule c e c' calls) (h : c.PunctualAt c.now) {t : Nat}
    (stage : c'.stage = .retrying t) : c'.now ≤ t := by
  cases rule with
  | board | cancel => exact h.attempt t stage
  | elapse may | approach may => exact (mayPass_iff.mp may).2.attempt t stage
  | refusedBoot =>
    cases stage
    exact Nat.le_add_right _ _
  | disregard listening | deafen listening | ignore listening =>
    exact absurd (stage.symm.trans listening) (by simp)
  | _ => cases stage

/-- No rule makes anything overdue. -/
lemma punctual (rule : Rule c e c' calls) (h : c.PunctualAt c.now) : c'.PunctualAt c'.now :=
  ⟨fun _ => rule.timerPunctual h, fun _ => rule.attemptPunctual h⟩

/-- What is posted stays behind the generation. -/
lemma bounded (rule : Rule c e c' calls) (h : c.timer.Bounded) : c'.timer.Bounded := by
  cases rule.timing with
  | still _ timer | approach _ _ _ timer => exact timer ▸ h
  | elapse _ _ _ timer => exact timer ▸ h.elapse
  | take _ _ posted _ timer => exact timer ▸ h.tail posted
  | arm _ _ timer => exact timer ▸ h.arm
  | stop _ timer => exact timer ▸ h.stop

end Rule

end Coordinator

namespace Run

variable {s : System} {history : List Moment} {self : Instance} {store : SliceConfig}
  {retryDelay : Nat}

/-- Nothing is ever overdue. -/
lemma punctual (run : Run (.ofInstance self store retryDelay) history s) :
    s.PunctualAt s.now := by
  refine run.keeps_rule (P := fun c => c.PunctualAt c.now) (fun rule h => rule.punctual h) ?_
  constructor <;> intro t h <;> cases h

/-- What is posted is never ahead of the generation. -/
lemma bounded (run : Run (.ofInstance self store retryDelay) history s) : s.timer.Bounded := by
  refine run.keeps_rule (P := fun c => c.timer.Bounded) (fun rule h => rule.bounded h) ?_
  intro g posted
  cases posted

end Run

end SliceSelection.Lifecycle
