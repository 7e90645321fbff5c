import SliceSelection.Proofs.Lifecycle.Stage
import SliceSelection.Proofs.Lifecycle.Timing

/-!
# The keepalive chain

From the acceptance of the first registration until shutdown there is one expiry that counts. It
is asleep, or it was posted, or a heartbeat is under way because it was taken. Every other expiry
is one of an older arming, and is taken without a call.
-/

namespace SliceSelection.Lifecycle

open Registry

/-- The number of expiries that a stage is about. -/
def Stage.handled : Stage → Nat
  | updating => 1
  | registering .lostHeartbeat _ => 1
  | _ => 0

namespace Coordinator

/-- The number of expiries that count: those that sleep, were posted or are being handled. -/
def live (c : Coordinator) : Nat := c.timer.live + c.stage.handled

namespace Rule

variable {c c' : Coordinator} {e : Event} {calls : List Call}

/-- Between the first registration and shutdown every rule keeps one expiry that counts. -/
lemma live (rule : Rule c e c' calls) (consistent : c.Consistent) (bounded : c.timer.Bounded)
    (booted : c.stage.isBooting = false) (going : c'.cancelled = false) (one : c.live = 1) :
    c'.live = 1 := by
  have before := rule.going going
  have running := consistent.running before
  have armed {seconds : Nat} : (c.timer.arm c.now seconds).live = 1 :=
    Heartbeat.live_arm running bounded
  unfold Coordinator.live at one ⊢
  -- Arming puts one expiry in the place of all; every other rule moves the one there is.
  cases rule with
  | board | approach | disregard | deafen => exact one
  | cancel => cases going
  | elapse => rwa [Heartbeat.live_elapse]
  | giveUp _ cancelled | stop _ cancelled => exact absurd (before.symm.trans cancelled) (by simp)
  | boot stage | retry stage | refusedBoot stage => simp [stage, Stage.isBooting] at booted
  | hear stage | refusedChange stage | lost stage | deregister stage | deregistered stage =>
    simpa [stage, Stage.handled] using one
  | beat stage _ _ posted current _ =>
    rw [Heartbeat.live_tail posted, if_pos (Heartbeat.isCurrent_iff.mp current).2, stage] at one
    exact one
  | ignore stage _ _ posted idle =>
    have stale : c.timer.isCurrent _ = false :=
      idle.resolve_right (by simp [consistent.unfinished before])
    rw [Heartbeat.live_tail posted, if_neg] at one
    · exact one
    · rintro rfl
      simp [Heartbeat.isCurrent, running] at stale
  | accepted | refusedAgain | kept => exact armed

/-- An expiry is taken for a heartbeat, or for nothing. -/
lemma takes (rule : Rule c e c' calls) {g : Nat} (takes : c.timer.posted = g :: c'.timer.posted) :
    (c.timer.isCurrent g = true ∧ calls = [.update c.self.identity heartbeatPatch]) ∨
    ((c.timer.isCurrent g = false ∨ c.self.state.isFinal = true) ∧ calls = [] ∧
      c' = { c with timer := { c.timer with posted := c'.timer.posted } }) := by
  cases rule with
  | beat _ _ _ posted current _ =>
    obtain ⟨rfl, -⟩ := List.cons.inj (posted.symm.trans takes)
    exact .inl ⟨current, rfl⟩
  | ignore _ _ _ posted idle =>
    obtain ⟨rfl, -⟩ := List.cons.inj (posted.symm.trans takes)
    exact .inr ⟨idle, rfl, rfl⟩
  | @elapse k _ =>
    have longer : c.timer.posted.length ≤ (c.timer.elapse (c.now + k)).posted.length :=
      Heartbeat.length_posted_elapse
    rw [takes] at longer
    exact absurd longer (Nat.not_succ_le_self _)
  | accepted | refusedAgain | kept =>
    simp [Heartbeat.start, Heartbeat.refresh] at takes
  | _ => exact absurd takes (List.cons_ne_self _ _).symm

/-- A heartbeat begins when the expiry that counts is taken. -/
lemma updates (rule : Rule c e c' calls) {i : Identity} {patch : List PatchItem}
    (begins : .update i patch ∈ calls) :
    c.timer.stopped = false ∧ c.timer.posted = c.timer.generation :: c'.timer.posted := by
  cases rule with
  | beat _ _ _ posted current _ =>
    obtain ⟨running, rfl⟩ := Heartbeat.isCurrent_iff.mp current
    exact ⟨running, posted⟩
  | _ => simp at begins

/-- Where an expiry is being handled, it was just taken, or was being handled before. -/
lemma handled (rule : Rule c e c' calls) (h : c'.stage.handled = 1) :
    c'.timer.generation = c.timer.generation ∧
      ((c.timer.posted = c.timer.generation :: c'.timer.posted ∧
          ∃ i patch, .update i patch ∈ calls) ∨
        c.stage.handled = 1) := by
  cases rule with
  | beat _ _ _ posted current _ =>
    obtain ⟨-, rfl⟩ := Heartbeat.isCurrent_iff.mp current
    exact ⟨rfl, .inl ⟨posted, _, _, List.mem_singleton_self _⟩⟩
  | elapse => exact ⟨Heartbeat.generation_elapse, .inr h⟩
  | board | cancel | approach | disregard | deafen | ignore => exact ⟨rfl, .inr h⟩
  | lost stage => exact ⟨rfl, .inr (by rw [stage]; rfl)⟩
  | _ => cases h

/-- The beginning of an attempt touches neither the time nor the timer. -/
lemma timer_register (rule : Rule c e c' calls) {i : Identity} {p : Profile}
    (begins : .register i p ∈ calls) : c'.now = c.now ∧ c'.timer = c.timer := by
  cases rule with
  | boot | retry | hear | lost => exact ⟨rfl, rfl⟩
  | _ => simp at begins

/-- While an attempt is under way the timer does nothing but run out. -/
lemma timer_registering (rule : Rule c e c' calls) {t : Trigger} {sent : Profile}
    (before : c.stage = .registering t sent) (after : c'.stage = .registering t sent) :
    c.now ≤ c'.now ∧ (c'.timer = c.timer ∨ c'.timer = c.timer.elapse c'.now) := by
  cases rule with
  | board | cancel => exact ⟨Nat.le_refl _, .inl rfl⟩
  | elapse => exact ⟨Nat.le_add_right _ _, .inr rfl⟩
  | approach => exact ⟨Nat.le_add_right _ _, .inl rfl⟩
  | accepted | refusedBoot | refusedChange | refusedAgain => cases after
  | boot stage | giveUp stage | stop stage | hear stage | disregard stage | deafen stage
  | beat stage | ignore stage | retry stage | kept stage | lost stage | deregister stage
  | deregistered stage => exact absurd (before.symm.trans stage) (by simp)

lemma timer_refused {f : Failure} (rule : Rule c (.answer (.register (.failed f))) c' calls)
    {sent : Profile} (stage : c.stage = .registering .plmnChange sent) : c'.timer = c.timer := by
  cases rule with
  | accepted _ outcome => cases outcome
  | refusedBoot | refusedChange => rfl
  | refusedAgain again => exact absurd (stage.symm.trans again) (by simp)

end Rule

end Coordinator

/-! ### The expiry that counts -/

namespace Moment

/-- An expiry is taken. -/
def Takes (m : Moment) (g : Nat) : Prop := m.before.timer.posted = g :: m.after.timer.posted

/-- A heartbeat begins. -/
def Updates (m : Moment) : Prop := ∃ i patch, .update i patch ∈ m.calls

/-- The timer is armed for a number of seconds. -/
def Arms (m : Moment) (seconds : Nat) : Prop :=
  m.before.timer.stopped = false ∧ m.after.timer = m.before.timer.arm m.before.now seconds

end Moment

/-- Where the expiry that counts is. -/
inductive Link where
  /-- The timer sleeps, and nothing that was posted counts. -/
  | asleep
  /-- The timer does not sleep, and of what was posted one expiry counts. -/
  | posted
  /-- The heartbeat that it began is under way, and the timer was not armed since. -/
  | handled

/-- Whether a link of the chain holds at the end of a history. -/
def Link.Holds (history : List Moment) (s : System) : Link → Prop
  | asleep => s.timer.due.isSome = true ∧ ∀ g ∈ s.timer.posted, s.timer.isCurrent g = false
  | posted => s.timer.due = none ∧ s.timer.posted.countP s.timer.isCurrent = 1
  | handled => s.stage.handled = 1 ∧ ∃ since m before, history = since ++ m :: before ∧
      m.Takes s.timer.generation ∧ m.Updates ∧
      ∀ x ∈ since ++ [m], x.after.stage.handled = 1 ∧ x.after.timer.generation = s.timer.generation

variable {s s' s₀ s₁ : System} {h : Happening} {calls : List Call}
  {earlier later history : List Moment} {m : Moment} {sent : Profile} {self : Instance}
  {store : SliceConfig} {retryDelay : Nat}

/-- While an expiry is being handled, the moment it was taken is known, and the timer was not armed
since. -/
lemma Run.handled (run : Run s₀ history s) (start : s₀.stage.handled ≠ 1)
    (h : s.stage.handled = 1) : Link.handled.Holds history s := by
  refine ⟨h, ?_⟩
  induction run with
  | start => exact absurd h start
  | @next history s s' _ calls run step ih =>
    obtain ⟨e, rule⟩ := (Change.of_step step).rule
    obtain ⟨generation, ⟨taken, updates⟩ | before⟩ := rule.handled h
    · refine ⟨[], _, history, rfl, generation.symm ▸ taken, updates, ?_⟩
      rw [List.nil_append, List.forall_mem_singleton]
      exact ⟨h, rfl⟩
    · obtain ⟨since, m, older, rfl, takes, updates, during⟩ := ih before
      rw [← generation] at takes during
      refine ⟨_ :: since, m, older, rfl, takes, updates, ?_⟩
      rw [List.cons_append, List.forall_mem_cons]
      exact ⟨⟨h, rfl⟩, during⟩

/-- One expiry counts throughout. -/
lemma Run.live (run : Run s₁ later s) (steady : s₁.IsSteady) (going : s.cancelled = false)
    (start : s₁.live = 1) : s.live = 1 := by
  apply run.while_steady (P := fun _ s => s.live = 1) steady going start
  intro _ _ _ _ _ _ before after change one
  obtain ⟨e, rule⟩ := change.rule
  exact rule.live before.consistent before.bounded before.booted after.going one

/-- When the first registration was accepted, one expiry counts: it sleeps. -/
lemma Run.live_boot (boot : Run (.ofInstance self store retryDelay) (m :: earlier) s₁)
    (accepted : m.AcceptsBoot sent) : s₁.live = 1 := by
  cases boot with
  | next boot step =>
    obtain ⟨under, listens⟩ := accepted
    obtain ⟨-, -, seconds, timer⟩ := (Change.of_step step).acceptsBoot under listens
    have running := boot.consistent.timer
    simp only at under listens
    rw [under] at running
    rw [Coordinator.live, timer, listens, Heartbeat.live_arm running boot.bounded]
    rfl

lemma System.IsSteady.isCurrent (steady : s.IsSteady) :
    s.timer.isCurrent = (· == s.timer.generation) := by
  funext g
  rw [Heartbeat.isCurrent, steady.consistent.running steady.going, Bool.not_false, Bool.true_and,
    Bool.beq_comm]

/-- Where one expiry counts, the timer sleeps, or it was posted, or it is being handled. -/
lemma System.IsSteady.total (steady : s.IsSteady) (one : s.live = 1) :
    s.timer.due.toList.length + s.timer.posted.countP s.timer.isCurrent + s.stage.handled = 1 := by
  rw [steady.isCurrent, ← List.count]
  exact one

lemma none_current_iff {timer : Heartbeat} :
    (∀ g ∈ timer.posted, timer.isCurrent g = false) ↔ timer.posted.countP timer.isCurrent = 0 := by
  simp [List.countP_eq_zero]

/-- Where one expiry counts, it is at one place of the chain. -/
lemma System.IsSteady.existsUnique_link (steady : s.IsSteady) (one : s.live = 1)
    (under : s.stage.handled = 1 → Link.handled.Holds history s) :
    ∃! link : Link, link.Holds history s := by
  have total := steady.total one
  cases due : s.timer.due with
  | some t =>
    rw [due, Option.toList_some, List.length_singleton] at total
    refine ⟨.asleep, ⟨by simp [due], none_current_iff.mpr (by omega)⟩, ?_⟩
    intro link holds
    cases link with
    | asleep => rfl
    | posted => exact absurd (due.symm.trans holds.1) (by simp)
    | handled =>
      have := holds.1
      omega
  | none =>
    rw [due, Option.toList_none, List.length_nil] at total
    by_cases handled : s.stage.handled = 1
    · refine ⟨.handled, under handled, ?_⟩
      intro link holds
      cases link with
      | asleep => simp [Link.Holds, due] at holds
      | posted =>
        have := holds.2
        omega
      | handled => rfl
    · have posted : s.timer.posted.countP s.timer.isCurrent = 1 := by omega
      refine ⟨.posted, ⟨due, posted⟩, ?_⟩
      intro link holds
      cases link with
      | asleep => simp [Link.Holds, due] at holds
      | posted => rfl
      | handled => exact absurd holds.1 handled

/-- While an expiry is being handled, no other one counts. -/
lemma System.IsSteady.alone (steady : s.IsSteady) (one : s.live = 1)
    (handled : s.stage.handled = 1) :
    s.timer.due = none ∧ ∀ g ∈ s.timer.posted, s.timer.isCurrent g = false := by
  have total := steady.total one
  constructor
  · cases due : s.timer.due with
    | none => rfl
    | some t =>
      rw [due, Option.toList_some, List.length_singleton] at total
      omega
  · rw [none_current_iff]
    omega

/-! ### The arming behind an expiry -/

/-- The timer of a system was armed at a moment for a number of seconds, and not since; and what
counts of it neither is due nor was posted before the seconds are over. -/
structure ArmedAt (s : System) (a : Moment) (seconds : Nat) : Prop where
  arms : a.Arms seconds
  generation : s.timer.generation = a.after.timer.generation
  due : ∀ t, s.timer.due = some t → t = a.before.now + 1000 * seconds
  come : s.timer.generation ∈ s.timer.posted → a.before.now + 1000 * seconds ≤ s.now

/-- An arming stands while the timer only grows older. -/
lemma ArmedAt.ages {a : Moment} {seconds : Nat} (armed : ArmedAt s a seconds)
    (ages : Coordinator.Ages s.toCoordinator s'.toCoordinator) : ArmedAt s' a seconds := by
  refine ⟨armed.arms, ages.generation.trans armed.generation, ?_, ?_⟩
  · intro t due
    exact armed.due t (ages.due t due)
  · intro posted
    rw [ages.generation] at posted
    rcases ages.posted _ posted with posted | ⟨-, t, due, past⟩
    · exact Nat.le_trans (armed.come posted) ages.now
    · exact armed.due t due ▸ past

/-- Where an expiry of the generation sleeps or was posted, the timer was armed at some moment, and
not since. -/
lemma Run.armed (run : Run (.ofInstance self store retryDelay) history s)
    (running : s.timer.stopped = false) (pending : 0 < s.timer.live) :
    ∃ during a before seconds, history = during ++ a :: before ∧ ArmedAt s a seconds ∧
      ∀ x ∈ during, x.after.timer.generation = s.timer.generation := by
  induction run with
  | start => exact absurd pending (Nat.lt_irrefl 0)
  | @next history s s' _ calls run step ih =>
    obtain ⟨e, rule⟩ := (Change.of_step step).rule
    rcases rule.timing.ages with ⟨seconds, now, timer⟩ | timer | ages
    · rw [timer, Heartbeat.stopped_arm] at running
      refine ⟨[], _, history, seconds, rfl, ⟨⟨running, timer⟩, rfl, ?_, ?_⟩, by simp⟩ <;>
        rw [timer, Heartbeat.arm_eq running]
      · intro t due
        exact (Option.some.inj due).symm
      · -- What was posted before is not ahead of the old generation.
        intro posted
        exact absurd (run.bounded _ posted) (Nat.not_succ_le_self _)
    · rw [timer] at running
      cases running
    · obtain ⟨during, a, before, seconds, rfl, armed, since⟩ :=
        ih (ages.stopped.symm.trans running) (Nat.lt_of_lt_of_le pending ages.live)
      refine ⟨_ :: during, a, before, seconds, rfl, armed.ages ages, ?_⟩
      rw [List.forall_mem_cons, ages.generation]
      exact ⟨rfl, since⟩

lemma Run.timer_registering (run : Run s₁ history s) {t : Trigger} {sent : Profile}
    (start : s₁.stage = .registering t sent)
    (under : ∀ x ∈ history, x.after.stage = .registering t sent) :
    s.stage = .registering t sent ∧
      (s.timer = s₁.timer ∨
        ∃ u, s₁.timer.due = some u ∧ u ≤ s.now ∧ s.timer = s₁.timer.elapse u) := by
  induction run with
  | start => exact ⟨start, .inl rfl⟩
  | next run step ih =>
    rw [List.forall_mem_cons] at under
    obtain ⟨before, same⟩ := ih under.2
    obtain ⟨e, rule⟩ := (Change.of_step step).rule
    obtain ⟨now, timer⟩ := rule.timer_registering before under.1
    refine ⟨under.1, ?_⟩
    rcases same with same | ⟨u, due, past, same⟩
    · rw [same] at timer
      rcases timer with timer | timer
      · exact .inl timer
      · cases due : s₁.timer.due with
        | none => exact .inl (timer.trans (Heartbeat.elapse_of_none due))
        | some u =>
          rcases Nat.lt_or_ge _ u with early | come
          · exact .inl (timer.trans (Heartbeat.elapse_of_lt due early))
          · refine .inr ⟨u, rfl, come, timer.trans ?_⟩
            rw [Heartbeat.elapse_of_le due come, Heartbeat.elapse_of_le due (Nat.le_refl u)]
    · refine .inr ⟨u, due, Nat.le_trans past now, ?_⟩
      rcases timer with timer | timer
      · exact timer.trans same
      · rw [timer, same]
        refine Heartbeat.elapse_of_none ?_
        rw [Heartbeat.elapse_of_le due (Nat.le_refl u)]

/-! ### The chain -/

/-- The keepalive chain of a run: `later` is its history behind the acceptance of the first
registration, which ends the history `earlier`. -/
structure Keepalive (earlier later : List Moment) (s : System) : Prop where
  /-- The expiry that counts is at one place. -/
  one : ∃! link : Link, link.Holds later s
  /-- While it is being handled, the timer neither sleeps nor posted anything else that counts. -/
  alone : s.stage.handled = 1 →
    s.timer.due = none ∧ ∀ g ∈ s.timer.posted, s.timer.isCurrent g = false
  /-- Every other expiry that was posted is of an older arming. -/
  stale : ∀ g ∈ s.timer.posted, s.timer.isCurrent g = false → g < s.timer.generation
  /-- An expiry that is taken begins a heartbeat if it counts, and otherwise is gone, no more. -/
  taken : ∀ x ∈ later, ∀ g, x.Takes g →
    (x.before.timer.isCurrent g = true ∧
      x.calls = [.update x.before.self.identity heartbeatPatch]) ∨
    (x.before.timer.isCurrent g = false ∧ x.calls = [] ∧
      x.after = { x.before with timer := { x.before.timer with posted := x.after.timer.posted } })
  /-- A registration with other networks that fails leaves the timer as it was when it began, but
  for an expiry that was due meanwhile and was posted. -/
  untouched : ∀ newer y older p f, later = newer ++ y :: older →
    y.before.stage = .registering .plmnChange p →
    y.happening = .event (.answer (.register (.failed f))) →
    ∃ during x before, older = during ++ x :: before ∧ x.Registers p ∧
      (∀ z ∈ during, z.calls = []) ∧
      y.after.timer.interval = x.before.timer.interval ∧
      y.after.timer.generation = x.before.timer.generation ∧
      (y.after.timer = x.before.timer ∨ ∃ t, x.before.timer.due = some t ∧ t ≤ y.before.now ∧
        y.after.timer = x.before.timer.elapse t)
  /-- A heartbeat begins when the seconds are over for which the timer was armed last. -/
  late : ∀ newer u older, later ++ earlier = newer ++ u :: older → u.Updates →
    ∃ during a before seconds, older = during ++ a :: before ∧ a.Arms seconds ∧
      u.Takes a.after.timer.generation ∧
      (∀ x ∈ during, x.after.timer.generation = a.after.timer.generation) ∧
      a.before.now + 1000 * seconds ≤ u.before.now

lemma Change.takes (change : Change s h s' calls) (steady : s.IsSteady) {g : Nat}
    (takes : s.timer.posted = g :: s'.timer.posted) :
    (s.timer.isCurrent g = true ∧ calls = [.update s.self.identity heartbeatPatch]) ∨
    (s.timer.isCurrent g = false ∧ calls = [] ∧
      s' = { s with timer := { s.timer with posted := s'.timer.posted } }) := by
  cases change with
  | event own rule =>
    apply (rule.takes takes).imp_right
    rintro ⟨idle, silent, same⟩
    refine ⟨?_, silent, ?_⟩
    · exact idle.resolve_right (by simp [steady.consistent.unfinished steady.going])
    · rw [same]
  | repeated | moved | published | close => exact absurd takes (List.cons_ne_self _ _).symm

lemma Change.timer_refused {f : Failure}
    (change : Change s (.event (.answer (.register (.failed f)))) s' calls) {p : Profile}
    (under : s.stage = .registering .plmnChange p) : s'.timer = s.timer := by
  cases change with
  | event _ rule => exact rule.timer_refused under

lemma Run.untouched {newer older : List Moment} {y : Moment} {p : Profile} {f : Failure}
    (run : Run s₁ (newer ++ y :: older) s) (start : s₁.stage = .listening)
    (under : y.before.stage = .registering .plmnChange p)
    (failed : y.happening = .event (.answer (.register (.failed f)))) :
    ∃ during x before, older = during ++ x :: before ∧ x.Registers p ∧
      (∀ z ∈ during, z.calls = []) ∧
      y.after.timer.interval = x.before.timer.interval ∧
      y.after.timer.generation = x.before.timer.generation ∧
      (y.after.timer = x.before.timer ∨ ∃ t, x.before.timer.due = some t ∧ t ≤ y.before.now ∧
        y.after.timer = x.before.timer.elapse t) := by
  obtain ⟨before, change, -⟩ := run.at_moment
  obtain ⟨during, x, older, rfl, ⟨i, begins⟩, stage, quiet⟩ :=
    before.registering (by simp [start]) under
  obtain ⟨-, attempt, behind⟩ := before.at_moment
  obtain ⟨e, rule⟩ := attempt.rule
  have begun := (rule.timer_register begins).2
  have ended := (failed ▸ change).timer_refused under
  have meanwhile := (behind.timer_registering stage fun z mem => (quiet z mem).2).2
  rw [begun, ← ended] at meanwhile
  refine ⟨during, x, older, rfl, ⟨i, begins⟩, fun z mem => (quiet z mem).1, ?_, ?_, meanwhile⟩
  · rcases meanwhile with same | ⟨t, -, -, same⟩ <;> simp [same]
  · rcases meanwhile with same | ⟨t, -, -, same⟩ <;> simp [same]

lemma Run.late {newer older : List Moment} {u : Moment}
    (run : Run (.ofInstance self store retryDelay) (newer ++ u :: older) s) (updates : u.Updates) :
    ∃ during a before seconds, older = during ++ a :: before ∧ a.Arms seconds ∧
      u.Takes a.after.timer.generation ∧
      (∀ x ∈ during, x.after.timer.generation = a.after.timer.generation) ∧
      a.before.now + 1000 * seconds ≤ u.before.now := by
  obtain ⟨before, change, -⟩ := run.at_moment
  obtain ⟨i, patch, begins⟩ := updates
  obtain ⟨e, rule⟩ := change.rule
  obtain ⟨running, posted⟩ := rule.updates begins
  have mem : u.before.timer.generation ∈ u.before.timer.posted :=
    posted ▸ List.mem_cons_self
  have pending : 0 < u.before.timer.live :=
    Nat.add_pos_right _ (List.count_pos_iff.mpr mem)
  obtain ⟨during, a, older, seconds, rfl, armed, since⟩ := before.armed running pending
  rw [armed.generation] at posted since
  exact ⟨during, a, older, seconds, rfl, armed.arms, posted, since, armed.come mem⟩

/-- From the acceptance of the first registration until shutdown the keepalive chain neither dies
nor doubles. -/
theorem keepalive (boot : Run (.ofInstance self store retryDelay) (m :: earlier) s₁)
    (accepted : m.AcceptsBoot sent) (run : Run s₁ later s) (going : s.cancelled = false) :
    Keepalive (m :: earlier) later s := by
  have start : s₁.stage = .listening := by
    cases boot with
    | next _ _ => exact accepted.2
  have first := boot.steady accepted (run.going going)
  have steady := run.stays_steady first going
  have one := run.live first going (boot.live_boot accepted)
  refine ⟨?_, steady.alone one, ?_, ?_, ?_, ?_⟩
  · exact steady.existsUnique_link one (run.handled (by simp [start, Stage.handled]))
  · intro g posted idle
    apply Nat.lt_of_le_of_ne (steady.bounded g posted)
    intro latest
    rw [steady.isCurrent] at idle
    exact absurd latest (ne_of_beq_false idle)
  · intro x mem g takes
    obtain ⟨newer, older, rfl⟩ := List.append_of_mem mem
    obtain ⟨before, change, behind⟩ := run.at_moment
    have going := change.going (behind.going going)
    exact change.takes (before.stays_steady first going) takes
  · rintro newer y older p f rfl under failed
    exact run.untouched start under failed
  · intro newer u older same updates
    have whole := boot.append run
    rw [same] at whole
    exact whole.late updates

/-- The timer runs out, and the heartbeat that begins is answered. -/
def firstHeartbeat : List Happening :=
  [.event (.answer (.update (.success none))), .event .act, .event (.elapse 60000)]

theorem keepalive_firstHeartbeat :
    ∃ m earlier s₁ sent later s, servingOne.play bootAtOnce = some (m :: earlier, s₁) ∧
      m.AcceptsBoot sent ∧ s₁.play firstHeartbeat = some (later, s) ∧ s.cancelled = false ∧
      Keepalive (m :: earlier) later s :=
  ⟨_, _, _, _, _, _, rfl, ⟨rfl, rfl⟩, rfl, rfl,
    keepalive (.of_play bootAtOnce rfl) ⟨rfl, rfl⟩ (.of_play firstHeartbeat rfl) rfl⟩

end SliceSelection.Lifecycle
