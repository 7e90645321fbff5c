import SliceSelection.Proofs.Lifecycle.Course
import SliceSelection.Proofs.Lifecycle.Shutdown

/-!
# Perseverance

The first registration is tried at once, and again a fixed time behind every failure, until the
registry accepts it or shutdown interrupts the wait. An attempt that is under way is never
interrupted: if it is accepted the instance is registered, whether shutdown has begun or not. Until
then the instance keeps its identity, and no heartbeat is armed.
-/

namespace SliceSelection.Lifecycle

open Registry

namespace Coordinator

/-- An attempt begins, with the identity of the start and the networks that the store holds. -/
def Occurrence.Attempts (x : Occurrence) (i : Instance) : Prop :=
  x.calls = [.register i.identity (i.profile x.before.board.store.plmns)]

/-- Whether the instance is registered, where the first registration comes to its end. -/
def Occurrence.result? (x : Occurrence) : Option Bool :=
  if x.before.stage.isBooting && !x.after.stage.isBooting then
    some (x.after.self.state = .registered)
  else none

/-- Nothing but the state of the registration has changed since the start. -/
structure Fresh (i : Instance) (retryDelay : Nat) (c : Coordinator) : Prop where
  same : c.self = i.withState c.self.state
  timer : c.timer = .idle
  delay : c.retryDelay = retryDelay

/-- An attempt failed at an occurrence `y`, and since then nothing began. -/
structure Setback (i : Instance) (retryDelay : Nat) (waiting : List Occurrence) (y : Occurrence)
    (older : List Occurrence) (c : Coordinator) : Prop where
  /-- Between the beginning of the attempt and its failure nothing else began. -/
  attempt : ∃ during z earlier, older = during ++ z :: earlier ∧ z.Attempts i ∧
    ∀ w ∈ during, w.calls = []
  failed : ∃ f, y.event = .answer (.register (.failed f))
  quiet : ∀ w ∈ waiting ++ [y], w.calls = [] ∧ w.after.self = i.withState .unregistered
  state : c.self = i.withState .unregistered
  early : c.now ≤ y.before.now + retryDelay
  /-- Once shutdown has begun no time passes. -/
  prompt : c.cancelled = true →
    c.now = y.before.now ∨ ∃ w ∈ waiting, w.event = .cancel ∧ w.before.now = c.now

/-- How far the first registration has come. -/
inductive Booting (i : Instance) (retryDelay : Nat) : List Occurrence → Coordinator → Prop where
  | starting {history : List Occurrence} {c : Coordinator} (stage : c.stage = .starting)
      (now : c.now = 0) (quiet : ∀ w ∈ history, w.calls = []) : Booting i retryDelay history c
  | calling {during earlier : List Occurrence} {z : Occurrence} {c : Coordinator}
      (stage : c.stage = .registering .boot (i.profile z.before.board.store.plmns))
      (begins : z.Attempts i) (quiet : ∀ w ∈ during, w.calls = []) :
      Booting i retryDelay (during ++ z :: earlier) c
  | waiting {waiting older : List Occurrence} {y : Occurrence} {c : Coordinator}
      (stage : c.stage = .retrying (y.before.now + retryDelay))
      (setback : Setback i retryDelay waiting y older c) :
      Booting i retryDelay (waiting ++ y :: older) c

variable {c c' : Coordinator} {e : Event} {calls : List Call} {self : Instance}
  {retryDelay : Nat} {history waiting older newer : List Occurrence} {x y : Occurrence}

/-! ### Steps -/

/-- An attempt just begun. -/
lemma Booting.of_attempt (attempts : x.Attempts self)
    (stage : c.stage = .registering .boot (self.profile x.before.board.store.plmns)) :
    Booting self retryDelay (x :: history) c := by
  rw [← List.nil_append (x :: history)]
  exact .calling stage attempts (by simp)

/-- An attempt just failed. -/
lemma Booting.of_setback (setback : Setback self retryDelay [] y history c)
    (stage : c.stage = .retrying (y.before.now + retryDelay)) :
    Booting self retryDelay (y :: history) c := by
  rw [← List.nil_append (y :: history)]
  exact .waiting stage setback

lemma Fresh.announcement (fresh : Fresh self retryDelay c) :
    c.announcement = self.profile c.board.store.plmns := by
  rw [Coordinator.announcement, fresh.same]
  rfl

lemma Fresh.identity (fresh : Fresh self retryDelay c) : c.self.identity = self.identity := by
  rw [fresh.same]
  rfl

lemma Fresh.attempts (fresh : Fresh self retryDelay c) :
    Occurrence.Attempts ⟨c, e, [.register c.self.identity c.announcement], c'⟩ self := by
  simp only [Occurrence.Attempts, fresh.identity, fresh.announcement]

/-- The wait goes on. -/
lemma Setback.wait (setback : Setback self retryDelay waiting y older c) (same : c'.self = c.self)
    (early : c'.now ≤ y.before.now + retryDelay)
    (prompt : c'.cancelled = true → c'.now = y.before.now ∨
      ∃ w ∈ (⟨c, e, [], c'⟩ : Occurrence) :: waiting, w.event = .cancel ∧ w.before.now = c'.now) :
    Setback self retryDelay (⟨c, e, [], c'⟩ :: waiting) y older c' :=
  have state := same.trans setback.state
  { attempt := setback.attempt
    failed := setback.failed
    quiet := List.forall_mem_cons.mpr ⟨⟨rfl, state⟩, setback.quiet⟩
    state := state
    early := early
    prompt := prompt }

namespace Rule

/-- While the first registration is tried nothing but its state changes. -/
lemma fresh (rule : Rule c e c' calls) (boots : c'.stage.isBooting = true)
    (h : Fresh self retryDelay c) : Fresh self retryDelay c' := by
  obtain ⟨same, timer, delay⟩ := h
  cases rule with
  | board | cancel | approach => exact ⟨same, timer, delay⟩
  | elapse => exact ⟨same, by simp [timer, Heartbeat.elapse, Heartbeat.idle], delay⟩
  | boot | retry | refusedBoot =>
    refine ⟨?_, timer, delay⟩
    rw [same]
    rfl
  | disregard stage | deafen stage | ignore stage =>
    exact absurd boots (by simp [stage, Stage.isBooting])
  | _ => cases boots

lemma boots (rule : Rule c e c' calls) (boots : c'.stage.isBooting = true) :
    c.stage.isBooting = true := by
  cases past : c.stage.isBooting with
  | true => rfl
  | false => exact absurd boots (by simp [rule.booted past])

/-- An attempt is the first one, or its time has come. -/
lemma attempt (rule : Rule c e c' calls) (boots : c.stage.isBooting = true) (begins : calls ≠ []) :
    calls = [.register c.self.identity c.announcement] ∧
      (c.stage = .starting ∨ ∃ due, c.stage = .retrying due ∧ due ≤ c.now) := by
  cases rule with
  | boot stage => exact ⟨rfl, .inl stage⟩
  | retry stage come => exact ⟨rfl, .inr ⟨_, stage, come⟩⟩
  | _ => simp_all [Stage.isBooting]

/-- The first registration ends by an acceptance, or by giving up the wait behind a failure. -/
lemma ends (rule : Rule c e c' calls) (boots : c.stage.isBooting = true)
    (past : c'.stage.isBooting = false) :
    (∃ o, e = .answer (.register o) ∧ o.isAccepted = true ∧ c'.self.state = .registered) ∨
      ∃ due, c.stage = .retrying due ∧ c.cancelled = true ∧ e = .act ∧ calls = [] ∧
        c' = { c with stage := .listening } := by
  cases rule with
  | accepted _ outcome => exact .inl ⟨_, rfl, outcome, rfl⟩
  | giveUp stage cancelled => exact .inr ⟨_, stage, cancelled, rfl, rfl, rfl⟩
  | board | cancel | elapse | approach => exact absurd boots (by simp [past])
  | boot | retry | refusedBoot => cases past
  | _ => simp_all [Stage.isBooting]

/-- Before the first attempt no time passes. -/
lemma booting_of_starting (rule : Rule c e c' calls) (fresh : Fresh self retryDelay c)
    (stage : c.stage = .starting) (now : c.now = 0) (quiet : ∀ w ∈ history, w.calls = []) :
    Booting self retryDelay (⟨c, e, calls, c'⟩ :: history) c' := by
  have still := mayPass_of_act (c := c) (by simp [act, stage])
  cases rule with
  | board | cancel => exact .starting stage now (List.forall_mem_cons.mpr ⟨rfl, quiet⟩)
  | elapse may | approach may => exact absurd may (by simp [still])
  | boot => exact .of_attempt fresh.attempts (congrArg _ fresh.announcement)
  | _ => simp_all

/-- While an attempt is under way nothing begins, and its failure begins a wait. -/
lemma booting_of_calling (rule : Rule c e c' calls) (boots : c'.stage.isBooting = true)
    (fresh : Fresh self retryDelay c) {sent : Profile} (stage : c.stage = .registering .boot sent)
    {during earlier : List Occurrence} {z : Occurrence} (begins : z.Attempts self)
    (sends : sent = self.profile z.before.board.store.plmns) (quiet : ∀ w ∈ during, w.calls = []) :
    Booting self retryDelay (⟨c, e, calls, c'⟩ :: (during ++ z :: earlier)) c' := by
  cases rule with
  | board | cancel | elapse | approach =>
    rw [← List.cons_append]
    exact .calling (stage.trans (congrArg _ sends)) begins
      (List.forall_mem_cons.mpr ⟨rfl, quiet⟩)
  | accepted => cases boots
  | refusedBoot =>
    have state : c.self.withState .unregistered = self.withState .unregistered := by
      rw [fresh.same]
      rfl
    refine .of_setback ?_ (congrArg (fun d => Stage.retrying (c.now + d)) fresh.delay)
    exact {
      attempt := ⟨during, z, earlier, rfl, begins, quiet⟩
      failed := ⟨_, rfl⟩
      quiet := by simp [state]
      state := state
      early := Nat.le_add_right _ _
      prompt := fun _ => .inl rfl }
  | _ => simp_all

/-- Behind a failure time passes up to the next attempt, unless shutdown has begun. -/
lemma booting_of_waiting (rule : Rule c e c' calls) (boots : c'.stage.isBooting = true)
    (fresh : Fresh self retryDelay c) (stage : c.stage = .retrying (y.before.now + retryDelay))
    (setback : Setback self retryDelay waiting y older c) :
    Booting self retryDelay (⟨c, e, calls, c'⟩ :: (waiting ++ y :: older)) c' := by
  cases rule with
  | board =>
    rw [← List.cons_append]
    refine .waiting stage (setback.wait rfl setback.early ?_)
    intro cancelled
    refine (setback.prompt cancelled).imp_right ?_
    rintro ⟨w, mem, cancel, now⟩
    exact ⟨w, List.mem_cons_of_mem _ mem, cancel, now⟩
  | cancel =>
    rw [← List.cons_append]
    exact .waiting stage (setback.wait rfl setback.early fun _ =>
      .inr ⟨_, List.mem_cons_self, rfl, rfl⟩)
  | elapse may | approach may =>
    rw [← List.cons_append]
    refine .waiting stage (setback.wait rfl ((mayPass_iff.mp may).2.attempt _ stage) ?_)
    intro cancelled
    exact absurd stage (not_retrying_of_mayPass may cancelled)
  | retry => exact .of_attempt fresh.attempts (congrArg _ fresh.announcement)
  | giveUp => cases boots
  | _ => simp_all

/-- A rule goes on with the first registration as far as it has come, or ends it. -/
lemma booting (rule : Rule c e c' calls) (boots : c'.stage.isBooting = true)
    (fresh : Fresh self retryDelay c) (h : Booting self retryDelay history c) :
    Booting self retryDelay (⟨c, e, calls, c'⟩ :: history) c' := by
  cases h with
  | starting stage now quiet => exact rule.booting_of_starting fresh stage now quiet
  | calling stage begins quiet => exact rule.booting_of_calling boots fresh stage begins rfl quiet
  | waiting stage setback => exact rule.booting_of_waiting boots fresh stage setback

end Rule

/-! ### Courses -/

namespace Course

variable {board : Board}

/-- Until the first registration has ended nothing but the state of the registration changes, and
it comes as far as its stage tells. -/
lemma booting (course : Course (.ofInstance self board retryDelay) history c)
    (boots : c.stage.isBooting = true) :
    Fresh self retryDelay c ∧ Booting self retryDelay history c := by
  induction course with
  | start => exact ⟨⟨rfl, rfl, rfl⟩, .starting rfl rfl (by simp)⟩
  | @next history c c' e calls course step ih =>
    have rule := Rule.of_step step
    obtain ⟨fresh, far⟩ := ih (rule.boots boots)
    exact ⟨rule.fresh boots fresh, rule.booting boots fresh far⟩

/-- Behind the end of the first registration it is not tried again. -/
lemma booted (course : Course c history c') (past : c.stage.isBooting = false) (mem : x ∈ history) :
    x.before.stage.isBooting = false := by
  obtain ⟨newer, older, rfl⟩ := List.append_of_mem mem
  exact course.at_occurrence.1.keeps (fun rule => rule.booted) past

/-- Shutdown had begun at some occurrence. -/
lemma exists_cancel (course : Course c history c') (going : c.cancelled = false)
    (cancelled : c'.cancelled = true) : ∃ x ∈ history, x.event = .cancel := by
  induction course with
  | start => exact absurd cancelled (by simp [going])
  | @next history c c' e calls course step ih =>
    cases before : c.cancelled with
    | true =>
      obtain ⟨x, mem, cancel⟩ := ih before
      exact ⟨x, List.mem_cons_of_mem _ mem, cancel⟩
    | false =>
      cases Rule.of_step step with
      | cancel => exact ⟨_, List.mem_cons_self, rfl⟩
      | _ => exact absurd cancelled (by simp [before])

end Course

/-! ### The policy -/

/-- A wait takes time, and shutdown does not begin just when it is over. -/
def Apart (retryDelay : Nat) (waiting : List Occurrence) (y : Occurrence) : Prop :=
  0 < retryDelay ∧ ∀ w ∈ waiting, w.event = .cancel → w.before.now ≠ y.before.now + retryDelay

/-- When an attempt begins: the first one at once, and another one exactly the delay behind the
failure of the one before, if shutdown did not begin in the wait. -/
inductive OnTime (i : Instance) (retryDelay : Nat) (x : Occurrence) : List Occurrence → Prop where
  | first {older : List Occurrence} (quiet : ∀ w ∈ older, w.calls = []) (now : x.before.now = 0) :
      OnTime i retryDelay x older
  | again {waiting older : List Occurrence} {y : Occurrence}
      (setback : Setback i retryDelay waiting y older x.before)
      (now : x.before.now = y.before.now + retryDelay)
      (going : Apart retryDelay waiting y → x.before.cancelled = false) :
      OnTime i retryDelay x (waiting ++ y :: older)

/-- How the first registration is given up: behind a failure, when shutdown has begun, and before
the wait is over. -/
inductive GivesUp (i : Instance) (retryDelay : Nat) (x : Occurrence) : List Occurrence → Prop where
  | intro {waiting older : List Occurrence} {y : Occurrence}
      (setback : Setback i retryDelay waiting y older x.before)
      (cancelled : x.before.cancelled = true)
      (cancels : ∃ w ∈ waiting ++ y :: older, w.event = .cancel)
      (early : Apart retryDelay waiting y → x.before.now < y.before.now + retryDelay)
      (silent : x.calls = []) (state : x.after.self = i.withState .unregistered)
      (timer : x.after.timer = .idle) : GivesUp i retryDelay x (waiting ++ y :: older)

/-- What is to be done next for the first registration can be done. -/
structure Responsive (c : Coordinator) : Prop where
  /-- The first attempt begins before any time passes. -/
  first : c.stage = .starting →
    (∃ c' call, c.step .act = some (c', [call])) ∧ ∀ k, c.mayPass k = false
  /-- Whatever answers the attempt under way is taken, whether shutdown has begun or not. -/
  answered : ∀ sent, c.stage = .registering .boot sent → ∀ o : RegisterOutcome,
    ∃ c', c.step (.answer (.register o)) = some (c', []) ∧ c'.stage.isBooting = !o.isAccepted
  /-- Until shutdown begins time passes up to the next attempt. -/
  patient : ∀ due, c.stage = .retrying due → c.cancelled = false → c.now < due →
    ∃ c', c.step (.approach (due - c.now)) = some (c', []) ∧ c'.now = due ∧ c'.stage = c.stage
  due : ∀ due, c.stage = .retrying due → c.now = due →
    ∃ c' call, c.step .retry = some (c', [call])
  /-- Shutdown ends the wait before any time passes. -/
  interrupted : ∀ due, c.stage = .retrying due → c.cancelled = true →
    (∃ c', c.step .act = some (c', []) ∧ c'.stage.isBooting = false) ∧
      (∀ k, c.mayPass k = false) ∧ (c.now < due → c.step .retry = none)

/-- The policy of the first registration. -/
structure Perseverance (i : Instance) (retryDelay : Nat) (history : List Occurrence)
    (c : Coordinator) : Prop where
  /-- Attempts are made one at a time and on time, each with what the store holds then. -/
  attempts : ∀ newer x older, history = newer ++ x :: older → x.before.stage.isBooting = true →
    x.calls ≠ [] → x.Attempts i ∧ OnTime i retryDelay x older
  /-- It succeeds exactly when an attempt is accepted. -/
  succeeds : ∀ x ∈ history, x.result? = some true ↔ x.before.stage.isBooting = true ∧
    ∃ o, x.event = .answer (.register o) ∧ o.isAccepted = true
  fails : ∀ newer x older, history = newer ++ x :: older → x.result? = some false →
    GivesUp i retryDelay x older
  /-- Behind its end there is no other attempt. -/
  ends : ∀ newer x older, history = newer ++ x :: older → x.result?.isSome = true →
    ∀ w ∈ newer, w.before.stage.isBooting = false
  /-- Until its end the identity stays, no heartbeat is armed, and the next thing to do is done. -/
  pending : c.stage.isBooting = true →
    Fresh i retryDelay c ∧ Booting i retryDelay history c ∧ Responsive c

lemma Occurrence.result?_eq_some_iff {registered : Bool} :
    x.result? = some registered ↔ x.before.stage.isBooting = true ∧
      x.after.stage.isBooting = false ∧ decide (x.after.self.state = .registered) = registered := by
  simp [result?, and_assoc]

/-- A wait in which shutdown has begun is not over, unless shutdown began just then. -/
lemma Setback.before_due (setback : Setback self retryDelay waiting y older c)
    (apart : Apart retryDelay waiting y) (cancelled : c.cancelled = true) :
    c.now < y.before.now + retryDelay := by
  obtain ⟨takes, apart⟩ := apart
  rcases setback.prompt cancelled with now | ⟨w, mem, cancel, now⟩
  · omega
  · exact Nat.lt_of_le_of_ne setback.early (now ▸ apart w mem cancel)

namespace Course

variable {board : Board}

lemma attempts (course : Course (.ofInstance self board retryDelay) (newer ++ x :: older) c)
    (boots : x.before.stage.isBooting = true) (begins : x.calls ≠ []) :
    x.Attempts self ∧ OnTime self retryDelay x older := by
  obtain ⟨before, rule, -⟩ := course.at_occurrence
  obtain ⟨fresh, far⟩ := before.booting boots
  obtain ⟨calls, stage⟩ := rule.attempt boots begins
  refine ⟨by rw [Occurrence.Attempts, calls, fresh.identity, fresh.announcement], ?_⟩
  cases far with
  | starting _ now quiet => exact .first quiet now
  | calling under => simp [under] at stage
  | waiting retrying setback =>
    obtain ⟨due, stage, come⟩ := stage.resolve_left (by simp [retrying])
    obtain rfl := Stage.retrying.inj (retrying.symm.trans stage)
    have now := Nat.le_antisymm setback.early come
    refine .again setback now fun apart => ?_
    refine eq_false_of_ne_true fun cancelled => ?_
    exact Nat.ne_of_lt (setback.before_due apart cancelled) now

lemma fails (course : Course (.ofInstance self board retryDelay) (newer ++ x :: older) c)
    (result : x.result? = some false) : GivesUp self retryDelay x older := by
  obtain ⟨before, rule, -⟩ := course.at_occurrence
  obtain ⟨boots, past, state⟩ := Occurrence.result?_eq_some_iff.mp result
  obtain ⟨fresh, far⟩ := before.booting boots
  rcases rule.ends boots past with ⟨o, -, -, registered⟩ | ⟨due, stage, cancelled, -, silent, after⟩
  · exact absurd registered (by simpa using state)
  · have cancels := before.exists_cancel rfl cancelled
    cases far with
    | starting starting => simp [starting] at stage
    | calling calling => simp [calling] at stage
    | waiting _ setback =>
      refine .intro setback cancelled cancels (fun apart => setback.before_due apart cancelled)
        silent ?_ ?_
      · rw [after]
        exact setback.state
      · rw [after]
        exact fresh.timer

lemma succeeds (course : Course (.ofInstance self board retryDelay) history c) (mem : x ∈ history) :
    x.result? = some true ↔ x.before.stage.isBooting = true ∧
      ∃ o, x.event = .answer (.register o) ∧ o.isAccepted = true := by
  obtain ⟨newer, older, rfl⟩ := List.append_of_mem mem
  obtain ⟨before, rule, -⟩ := course.at_occurrence
  rw [Occurrence.result?_eq_some_iff]
  constructor
  · rintro ⟨boots, past, state⟩
    refine ⟨boots, ?_⟩
    rcases rule.ends boots past with ⟨o, answer, outcome, -⟩ | ⟨due, stage, -, -, -, after⟩
    · exact ⟨o, answer, outcome⟩
    · obtain ⟨-, far⟩ := before.booting boots
      cases far with
      | starting starting => simp [starting] at stage
      | calling calling => simp [calling] at stage
      | waiting _ setback => simp [after, setback.state, Instance.withState] at state
  · rintro ⟨boots, o, answer, outcome⟩
    rw [answer] at rule
    obtain ⟨stage, state⟩ := rule.registered_of_accepted outcome
    exact ⟨boots, by simp [stage, Stage.isBooting], by simp [state]⟩

end Course

/-- With no heartbeat armed time passes up to the next attempt. -/
lemma mayPass_of_retrying {due : Nat} (stage : c.stage = .retrying due)
    (going : c.cancelled = false) (early : c.now < due) (timer : c.timer = .idle) :
    c.mayPass (due - c.now) = true := by
  have waits : c.isWaiting = true := by
    simp [isWaiting, act, Coordinator.retry, stage, going, Nat.not_le.mpr early]
  refine mayPass_iff.mpr ⟨waits, ?_, ?_⟩
  · intro t due
    simp [timer, Heartbeat.idle] at due
  · intro t other
    obtain rfl := Stage.retrying.inj (stage.symm.trans other)
    exact Nat.le_of_eq (Nat.add_sub_of_le (Nat.le_of_lt early))

lemma Fresh.responsive (fresh : Fresh self retryDelay c) : Responsive c := by
  constructor
  · intro stage
    exact ⟨⟨_, _, by simp only [step, act, stage]; rfl⟩,
      mayPass_of_act (by simp [act, stage])⟩
  · intro sent stage o
    refine ⟨_, by simp only [step, Coordinator.answer, stage]; rfl, ?_⟩
    cases o <;> rfl
  · intro due stage going early
    have may := mayPass_of_retrying stage going early fresh.timer
    have passes : c.step (.approach (due - c.now)) = some ({ c with now := due }, []) := by
      simp only [step, Coordinator.approach, may, if_true, Nat.add_sub_of_le (Nat.le_of_lt early)]
    exact ⟨_, passes, rfl, rfl⟩
  · intro due stage now
    exact ⟨_, _, by simp only [step, Coordinator.retry, stage, now, Nat.le_refl, if_true]; rfl⟩
  · intro due stage cancelled
    refine ⟨⟨_, by simp only [step, act, stage, cancelled, if_true]; rfl, rfl⟩,
      mayPass_of_act (by simp [act, stage, cancelled]), ?_⟩
    intro early
    simp [step, Coordinator.retry, stage, Nat.not_le.mpr early]

variable {board : Board}

/-- The first registration is tried at once and again the delay behind every failure, one attempt
at a time and each with the networks of the store at its beginning. It succeeds exactly when an
attempt is accepted; it is given up only behind a failure and when shutdown has begun, without
waiting for the next attempt. Until then the identity stays, no heartbeat is armed, and behind a
failure the instance is unregistered. -/
theorem perseverance (course : Course (.ofInstance self board retryDelay) history c) :
    Perseverance self retryDelay history c where
  attempts newer x older split boots begins := by
    subst split
    exact course.attempts boots begins
  succeeds x mem := course.succeeds mem
  fails newer x older split result := by
    subst split
    exact course.fails result
  ends newer x older split result w mem := by
    subst split
    obtain ⟨registered, result⟩ := Option.isSome_iff_exists.mp result
    obtain ⟨-, past, -⟩ := Occurrence.result?_eq_some_iff.mp result
    exact course.at_occurrence.2.2.booted past mem
  pending boots := by
    obtain ⟨fresh, far⟩ := course.booting boots
    exact ⟨fresh, far, fresh.responsive⟩

/-- The first attempt fails after half a second, another network is served by the time of the
second, which fails at once, and shutdown begins in the wait behind it. -/
def interruptedBoot : List Event :=
  [.act, .cancel, .approach 400, .answer (.register (.failed (.unexpectedStatus 503))), .retry,
    .board (.ofStore ⟨[⟨"001", "01"⟩], ∅⟩), .approach 2000,
    .answer (.register (.failed (.unexpectedStatus 503))), .elapse 500, .act]

theorem perseverance_interruptedBoot :
    ∃ x older c, (ofInstance servingOne.self servingOne.board 2000).play interruptedBoot =
        some (x :: older, c) ∧ x.result? = some false ∧ x.before.now = 2900 ∧
      Perseverance servingOne.self 2000 (x :: older) c := by
  have gaveUp : ∃ x older c, (ofInstance servingOne.self servingOne.board 2000).play
      interruptedBoot = some (x :: older, c) ∧ x.result? = some false ∧ x.before.now = 2900 :=
    ⟨_, _, _, rfl, rfl, rfl⟩
  obtain ⟨x, older, c, played, result, now⟩ := gaveUp
  exact ⟨x, older, c, played, result, now, perseverance (.of_play interruptedBoot played)⟩

/-- An attempt that is accepted when shutdown has begun succeeds all the same. -/
example : (servingOne.toCoordinator.play [.answer (.register (.updated none)), .cancel, .act]).map
    (fun (history, _) => history.map (·.result?)) = some [some true, none, none] := by
  rfl

end Coordinator

end SliceSelection.Lifecycle
