import Mathlib.Tactic.Common
import SliceSelection.Lifecycle.Heartbeat

/-!
# What the operations of the timer do

Arming begins a generation and the sleep of its expiry, and the passing of time wakes it once.
Only stopping stops the timer, for good.
-/

namespace SliceSelection.Lifecycle.Heartbeat

variable {h : Heartbeat} {now seconds t : Nat}

@[simp] lemma stopped_arm : (h.arm now seconds).stopped = h.stopped := by
  unfold arm
  split <;> rfl

@[simp] lemma posted_arm : (h.arm now seconds).posted = h.posted := by
  unfold arm
  split <;> rfl

@[simp] lemma stopped_start {secs : Option UInt32} : (h.start now secs).stopped = h.stopped :=
  stopped_arm

@[simp] lemma stopped_refresh {secs : Option UInt32} :
    (h.refresh now secs).stopped = h.stopped := stopped_arm

@[simp] lemma stopped_elapse : (h.elapse now).stopped = h.stopped := by
  unfold elapse
  split <;> [split; skip] <;> rfl

@[simp] lemma generation_elapse : (h.elapse now).generation = h.generation := by
  unfold elapse
  split <;> [split; skip] <;> rfl

@[simp] lemma interval_elapse : (h.elapse now).interval = h.interval := by
  unfold elapse
  split <;> [split; skip] <;> rfl

/-- Arming a timer that was not stopped begins a generation. -/
lemma arm_eq (running : h.stopped = false) :
    h.arm now seconds =
      { h with
        interval := some seconds
        generation := h.generation + 1
        due := some (now + 1000 * seconds) } := by
  simp [arm, running]

lemma elapse_of_none (awake : h.due = none) : h.elapse now = h := by
  simp [elapse, awake]

lemma elapse_of_lt (asleep : h.due = some t) (early : now < t) : h.elapse now = h := by
  simp [elapse, asleep, Nat.not_le.mpr early]

/-- A timer that is due posts its generation. -/
lemma elapse_of_le (asleep : h.due = some t) (come : t ≤ now) :
    h.elapse now = { h with due := none, posted := h.posted ++ [h.generation] } := by
  simp [elapse, asleep, come]

/-- A timer that runs out does not become due by it. -/
lemma due_elapse (due : (h.elapse now).due = some t) :
    h.due = some t := by
  cases asleep : h.due with
  | none => rwa [elapse_of_none asleep, asleep] at due
  | some u =>
    rcases Nat.lt_or_ge now u with early | come
    · rwa [elapse_of_lt asleep early, asleep] at due
    · rw [elapse_of_le asleep come] at due
      cases due

lemma due_arm (due : (h.arm now seconds).due = some t) :
    h.due = some t ∨ t = now + 1000 * seconds := by
  cases running : h.stopped
  · rw [arm_eq running] at due
    exact .inr (Option.some.inj due).symm
  · simp only [Heartbeat.arm, running, if_true] at due
    exact .inl due

/-- The expiry that counts is that of the generation, until the timer is stopped. -/
lemma isCurrent_iff {g : Nat} : h.isCurrent g = true ↔ h.stopped = false ∧ g = h.generation := by
  rw [isCurrent, Bool.and_eq_true, Bool.not_eq_true', beq_iff_eq]
  exact and_congr_right fun _ => eq_comm

/-! ### Expiries that count -/

/-- What was posted was armed before. -/
def Bounded (h : Heartbeat) : Prop := ∀ g ∈ h.posted, g ≤ h.generation

lemma Bounded.arm (bounded : h.Bounded) : (h.arm now seconds).Bounded := by
  intro g posted
  cases running : h.stopped
  · rw [arm_eq running] at posted ⊢
    exact Nat.le_succ_of_le (bounded g posted)
  · simp only [Heartbeat.arm, running, if_true] at posted ⊢
    exact bounded g posted

/-- What is posted behind the passing of time was posted before, or ran out. -/
lemma mem_posted_elapse {g : Nat} (mem : g ∈ (h.elapse now).posted) :
    g ∈ h.posted ∨ g = h.generation ∧ ∃ t, h.due = some t ∧ t ≤ now := by
  cases asleep : h.due with
  | none => exact .inl (by rwa [elapse_of_none asleep] at mem)
  | some t =>
    rcases Nat.lt_or_ge now t with early | come
    · exact .inl (by rwa [elapse_of_lt asleep early] at mem)
    · rw [elapse_of_le asleep come, List.mem_append, List.mem_singleton] at mem
      exact mem.imp_right fun latest => ⟨latest, t, rfl, come⟩

lemma Bounded.elapse (bounded : h.Bounded) : (h.elapse now).Bounded := by
  intro g posted
  rw [generation_elapse]
  rcases mem_posted_elapse posted with posted | ⟨rfl, -⟩
  · exact bounded g posted
  · exact Nat.le_refl _

lemma Bounded.stop (bounded : h.Bounded) : h.stop.Bounded := fun g posted =>
  Nat.le_succ_of_le (bounded g posted)

lemma Bounded.tail {g : Nat} {gs : List Nat} (bounded : h.Bounded) (posted : h.posted = g :: gs) :
    Bounded { h with posted := gs } := fun g' mem =>
  bounded g' (posted ▸ List.mem_cons_of_mem g mem)

/-- The number of expiries of the current generation that sleep or were posted. -/
def live (h : Heartbeat) : Nat := h.due.toList.length + h.posted.count h.generation

lemma length_posted_elapse : h.posted.length ≤ (h.elapse now).posted.length := by
  unfold elapse
  split <;> [split; skip] <;> simp

/-- A timer that was armed has one expiry that counts. -/
lemma live_arm (running : h.stopped = false) (bounded : h.Bounded) :
    (h.arm now seconds).live = 1 := by
  have fresh : h.generation + 1 ∉ h.posted := fun mem => Nat.not_succ_le_self _ (bounded _ mem)
  rw [arm_eq running, live]
  simp [List.count_eq_zero_of_not_mem fresh]

@[simp] lemma live_elapse : (h.elapse now).live = h.live := by
  cases asleep : h.due with
  | none => rw [elapse_of_none asleep]
  | some t =>
    rcases Nat.lt_or_ge now t with early | come
    · rw [elapse_of_lt asleep early]
    · rw [elapse_of_le asleep come]
      simp [live, asleep, Nat.add_comm]

/-- Taking an expiry takes it from those that count if it is one of them. -/
lemma live_tail {g : Nat} {gs : List Nat} (posted : h.posted = g :: gs) :
    h.live = live { h with posted := gs } + if g = h.generation then 1 else 0 := by
  simp [live, posted, List.count_cons, Nat.add_assoc]

end SliceSelection.Lifecycle.Heartbeat
