import SliceSelection.Proofs.Lifecycle.Calling
import SliceSelection.Proofs.Lifecycle.Keepalive

/-!
# Shutdown

Once shutdown has begun the coordinator only finishes what is under way. No heartbeat begins any
more, at most one attempt to register does, and after a few steps the instance is deregistered,
once, when no call is under way.
-/

namespace SliceSelection.Lifecycle

open Registry

/-- Whether a call is an attempt to register. -/
def Call.isRegister : Call → Bool
  | register _ _ => true
  | _ => false

/-! ### What is left -/

namespace Coordinator

variable {c c' : Coordinator} {e : Event} {calls : List Call}

/-- The number of attempts that may still begin when shutdown has begun. -/
def attemptsLeft (c : Coordinator) : Nat :=
  match c.stage with
  | .starting => 1
  | .retrying due => if due ≤ c.now then 1 else 0
  | .updating => 1
  | _ => 0

/-- A number of steps that is enough for the coordinator when shutdown has begun. -/
def stepsLeft (c : Coordinator) : Nat :=
  match c.stage with
  | .starting => 6
  | .retrying due => if due ≤ c.now then 6 else 4
  | .registering t _ => if t = .boot then 5 else 4
  | .updating => 5
  | .listening => 3
  | .stopped => 2
  | .deregistering => 1
  | .ended => 0

lemma attemptsLeft_le : c.attemptsLeft ≤ 1 := by
  unfold attemptsLeft
  repeat' split
  all_goals decide

lemma stepsLeft_le : c.stepsLeft ≤ 6 := by
  unfold stepsLeft
  repeat' split
  all_goals decide

/-- Shutdown has begun, and attempts are not repeated at once. -/
structure IsClosing (c : Coordinator) : Prop where
  cancelled : c.cancelled = true
  delay : 0 < c.retryDelay

lemma not_due (delay : 0 < c.retryDelay) : ¬ c.now + c.retryDelay ≤ c.now :=
  Nat.not_le.mpr (Nat.lt_add_of_pos_right delay)

/-- While shutdown is to give up an attempt that was due later no time passes. -/
lemma not_retrying_of_mayPass {due k : Nat} (may : c.mayPass k = true)
    (cancelled : c.cancelled = true) :
    c.stage ≠ .retrying due := by
  intro stage
  have stays := mayPass_of_act (c := c) (by simp [act, stage, cancelled]) k
  exact absurd may (by simp [stays])

namespace Rule

/-- Behind shutdown every attempt that begins is one of those that were left. -/
lemma attemptsLeft (rule : Rule c e c' calls) (closing : c.IsClosing) :
    c'.attemptsLeft + calls.countP Call.isRegister ≤ c.attemptsLeft := by
  cases rule with
  | board | cancel => exact Nat.le_refl _
  | elapse may | approach may =>
    cases stage : c.stage with
    | retrying due => exact absurd stage (not_retrying_of_mayPass may closing.cancelled)
    | _ => simp [Coordinator.attemptsLeft, stage]
  | boot stage | lost stage => simp [Coordinator.attemptsLeft, stage, Call.isRegister]
  | retry stage come => simp [Coordinator.attemptsLeft, stage, come, Call.isRegister]
  | refusedBoot => simp [Coordinator.attemptsLeft, not_due closing.delay]
  | hear _ going | disregard _ going | deafen _ going | beat _ going | ignore _ going =>
    exact absurd closing.cancelled (by simp [going])
  | _ => exact Nat.zero_le _

/-- Behind shutdown every step of the coordinator is one of those that were left. -/
lemma stepsLeft (rule : Rule c e c' calls) (closing : c.IsClosing) :
    c'.stepsLeft + (if e.isOwn then 1 else 0) ≤ c.stepsLeft := by
  cases rule with
  | board | cancel => exact Nat.le_refl _
  | elapse may | approach may =>
    cases stage : c.stage with
    | retrying due => exact absurd stage (not_retrying_of_mayPass may closing.cancelled)
    | _ => simp [Coordinator.stepsLeft, stage, Event.isOwn]
  | boot stage | stop stage | refusedChange stage | refusedAgain stage | kept stage | lost stage
  | deregister stage | deregistered stage =>
    simp [Coordinator.stepsLeft, stage, Event.isOwn]
  | retry stage come => simp [Coordinator.stepsLeft, stage, come, Event.isOwn]
  | giveUp stage =>
    simp only [Coordinator.stepsLeft, stage, Event.isOwn, if_true]
    split <;> decide
  | refusedBoot stage =>
    simp [Coordinator.stepsLeft, stage, Event.isOwn, not_due closing.delay]
  | @accepted t _ _ stage => cases t <;> simp [Coordinator.stepsLeft, stage, Event.isOwn]
  | hear _ going | disregard _ going | deafen _ going | beat _ going | ignore _ going =>
    exact absurd closing.cancelled (by simp [going])

lemma no_update (rule : Rule c e c' calls) (closing : c.IsClosing) {i : Identity}
    {patch : List PatchItem} : .update i patch ∉ calls := by
  cases rule with
  | beat _ going => exact absurd closing.cancelled (by simp [going])
  | _ => simp

/-- Behind shutdown an attempt that is left was left before, and no time passed if it is one of the
first registration. -/
lemma stage_of_attemptsLeft (rule : Rule c e c' calls) (closing : c.IsClosing)
    (left : 0 < c'.attemptsLeft) :
    c'.stage = c.stage ∧ ∀ due, c.stage = .retrying due → c'.now = c.now := by
  cases rule with
  | board | cancel => exact ⟨rfl, fun _ _ => rfl⟩
  | elapse may | approach may =>
    exact ⟨rfl, fun _ stage => absurd stage (not_retrying_of_mayPass may closing.cancelled)⟩
  | refusedBoot => simp [Coordinator.attemptsLeft, not_due closing.delay] at left
  | hear _ going | disregard _ going | deafen _ going | beat _ going | ignore _ going =>
    exact absurd closing.cancelled (by simp [going])
  | _ => cases left

lemma delay (rule : Rule c e c' calls) (delay : 0 < c.retryDelay) : 0 < c'.retryDelay := by
  cases rule <;> exact delay

lemma closing (rule : Rule c e c' calls) (closing : c.IsClosing) : c'.IsClosing :=
  ⟨rule.cancelled closing.cancelled, rule.delay closing.delay⟩

/-- Behind shutdown an attempt is the first one, or was due, or stands for a heartbeat. -/
lemma leftover (rule : Rule c e c' calls) (closing : c.IsClosing) {i : Identity} {p : Profile}
    (begins : .register i p ∈ calls) :
    c.stage = .starting ∨ (∃ due, c.stage = .retrying due ∧ due ≤ c.now) ∨
      c.stage = .updating ∧ ∃ o, e = .answer (.update o) := by
  cases rule with
  | boot stage => exact .inl stage
  | retry stage come => exact .inr (.inl ⟨_, stage, come⟩)
  | lost stage => exact .inr (.inr ⟨stage, _, rfl⟩)
  | hear _ going => exact absurd closing.cancelled (by simp [going])
  | _ => simp at begins

lemma starting (rule : Rule c e c' calls) (h : c'.stage = .starting) :
    c.stage = .starting ∧ calls = [] := by
  cases rule with
  | board | cancel | elapse | approach => exact ⟨h, rfl⟩
  | disregard stage | deafen stage | ignore stage => exact absurd (h.symm.trans stage) (by simp)
  | _ => cases h

/-- Listening that has ended does not begin again. -/
lemma isOver (rule : Rule c e c' calls) (past : c.stage.isOver = true) :
    c'.stage.isOver = true := by
  cases rule with
  | board | cancel | elapse | approach | disregard | deafen | ignore => exact past
  | stop | deregister | deregistered => rfl
  | boot stage | giveUp stage | hear stage | beat stage | retry stage | accepted stage
  | refusedBoot stage | refusedChange stage | refusedAgain stage | kept stage | lost stage =>
    rw [stage] at past
    cases past

/-- Behind the deregistration there is nothing. -/
lemma ended (rule : Rule c e c' calls) (ended : c.stage = .ended) : c'.stage = .ended := by
  cases rule with
  | board | cancel | elapse | approach | disregard | deafen | ignore => exact ended
  | boot stage | giveUp stage | stop stage | hear stage | beat stage | retry stage
  | accepted stage | refusedBoot stage | refusedChange stage | refusedAgain stage | kept stage
  | lost stage | deregister stage | deregistered stage =>
    exact absurd (ended.symm.trans stage) (by simp)

end Rule

end Coordinator

variable {s s' s₀ : System} {h : Happening} {calls : List Call}
  {earlier later newer older history : List Moment} {c x d : Moment} {self : Instance}
  {store : SliceConfig} {retryDelay : Nat}

lemma Run.delay (run : Run (.ofInstance self store retryDelay) history s) (delay : 0 < retryDelay) :
    0 < s.retryDelay := by
  have start : 0 < (System.ofInstance self store retryDelay).retryDelay := delay
  exact run.keeps_rule (P := fun c => 0 < c.retryDelay) (fun rule h => rule.delay h) start

/-! ### Runs behind shutdown -/

lemma Change.stepsLeft (change : Change s h s' calls) (closing : s.IsClosing) :
    s'.stepsLeft + (if h.isOwn then 1 else 0) ≤ s.stepsLeft := by
  cases change with
  | event _ rule => exact rule.stepsLeft closing
  | _ => exact Nat.le_refl _

lemma Change.cancel (change : Change s (.event .cancel) s' calls) :
    s' = { s with cancelled := true } := by
  cases change with
  | event _ rule =>
    cases rule
    rfl

namespace Run

lemma closing (run : Run s₀ history s) (closing : s₀.IsClosing) : s.IsClosing :=
  run.keeps_rule (fun rule h => rule.closing h) closing

/-- Behind shutdown no more attempts begin than were left. -/
lemma attemptsLeft (run : Run s₀ history s) (closing : s₀.IsClosing) :
    s.attemptsLeft + (callsIn history).countP Call.isRegister ≤ s₀.attemptsLeft := by
  induction run with
  | start => exact Nat.le_refl _
  | next run step ih =>
    obtain ⟨e, rule⟩ := (Change.of_step step).rule
    have left := rule.attemptsLeft (run.closing closing)
    rw [callsIn_cons, List.countP_append]
    omega

/-- Behind shutdown the coordinator takes no more steps than were left. -/
lemma stepsLeft (run : Run s₀ history s) (closing : s₀.IsClosing) :
    s.stepsLeft + history.countP (·.happening.isOwn) ≤ s₀.stepsLeft := by
  induction run with
  | start => exact Nat.le_refl _
  | next run step ih =>
    have left := (Change.of_step step).stepsLeft (run.closing closing)
    simp only [List.countP_cons]
    omega

/-- Behind shutdown no heartbeat begins. -/
lemma no_update (run : Run s₀ history s) (closing : s₀.IsClosing) (mem : x ∈ history) :
    ¬ x.Updates := by
  rintro ⟨i, patch, begins⟩
  obtain ⟨later, earlier, rfl⟩ := List.append_of_mem mem
  obtain ⟨before, change, -⟩ := run.at_moment
  obtain ⟨e, rule⟩ := change.rule
  exact rule.no_update (before.closing closing) begins

/-- An attempt that is left was left when shutdown began. -/
lemma stage_of_attemptsLeft (run : Run s₀ history s) (closing : s₀.IsClosing)
    (left : 0 < s.attemptsLeft) :
    s.stage = s₀.stage ∧ ∀ due, s₀.stage = .retrying due → s.now = s₀.now := by
  induction run with
  | start => exact ⟨rfl, fun _ _ => rfl⟩
  | next run step ih =>
    obtain ⟨e, rule⟩ := (Change.of_step step).rule
    have before := run.closing closing
    have fewer := rule.attemptsLeft before
    obtain ⟨stage, now⟩ := ih (by omega)
    obtain ⟨same, still⟩ := rule.stage_of_attemptsLeft before left
    refine ⟨same.trans stage, ?_⟩
    intro due retrying
    exact (still due (stage.trans retrying)).trans (now due retrying)

/-- Before the first attempt there was no call. -/
lemma starting (run : Run s₀ history s) (h : s.stage = .starting) : callsIn history = [] := by
  induction run with
  | start => rfl
  | next run step ih =>
    obtain ⟨e, rule⟩ := (Change.of_step step).rule
    obtain ⟨stage, silent⟩ := rule.starting h
    rw [callsIn_cons, silent, ih stage, List.append_nil]

end Run

/-! ### The end -/

/-- Shutdown had begun at some moment. -/
lemma Run.exists_cancel (run : Run s₀ history s) (going : s₀.cancelled = false)
    (cancelled : s.cancelled = true) : ∃ x ∈ history, x.happening = .event .cancel := by
  induction run with
  | start => exact absurd cancelled (by simp [going])
  | @next history s s' h calls run step ih =>
    cases before : s.cancelled with
    | true =>
      obtain ⟨x, mem, cancel⟩ := ih before
      exact ⟨x, List.mem_cons_of_mem _ mem, cancel⟩
    | false =>
      have change := Change.of_step step
      cases change with
      | event own rule =>
        cases rule with
        | cancel => exact ⟨_, List.mem_cons_self, rfl⟩
        | _ => exact absurd cancelled (by simp [before])
      | repeated | moved | published | close => exact absurd cancelled (by simp [before])

/-- The coordinator takes every answer to the call that is under way. -/
lemma System.takes_answer {a : Answer} (under : s.stage.isAnsweredBy a = true) :
    (s.step (.event (.answer a))).isSome = true := by
  simp only [System.step, Coordinator.Event.isBoard, Bool.false_eq_true, if_false,
    System.through, Option.isSome_map, Coordinator.step]
  cases stage : s.stage <;> cases a <;>
    simp_all [Coordinator.answer, Stage.isAnsweredBy]

/-- Behind shutdown the coordinator can do something until it has ended. -/
lemma System.ended_of_stuck (closing : s.IsClosing)
    (stuck : ∀ h : Happening, h.isOwn = true → s.step h = none) : s.stage = .ended := by
  have answered (a : Answer) : s.stage.isAnsweredBy a = false := by
    apply eq_false_of_ne_true
    intro under
    have taken := System.takes_answer under
    simp [stuck (.event (.answer a)) rfl] at taken
  have act := stuck (.event .act) rfl
  have farewell := stuck (.event .deregister) rfl
  cases stage : s.stage with
  | ended => rfl
  | registering => simpa [stage, Stage.isAnsweredBy] using answered (.register (.updated none))
  | updating => simpa [stage, Stage.isAnsweredBy] using answered (.update (.success none))
  | deregistering => simpa [stage, Stage.isAnsweredBy] using answered (.deregister .success)
  | stopped =>
    simp [System.step, Coordinator.Event.isBoard, System.through, Coordinator.step, stage]
      at farewell
  | starting | retrying | listening =>
    simp [System.step, Coordinator.Event.isBoard, System.through, Coordinator.step,
      Coordinator.act, Coordinator.listen, stage, closing.cancelled] at act

/-- An attempt that begins behind the beginning of shutdown, and what was before it. -/
inductive Leftover (c x : Moment) (older : List Moment) : Prop where
  /-- It is the first attempt. -/
  | first (stage : c.before.stage = .starting) (none : callsIn older = [])
  /-- It was due when shutdown began, and no time has passed. -/
  | due (stage : c.before.stage = .retrying c.before.now) (still : x.before.stage = c.before.stage)
      (now : x.before.now = c.before.now)
  /-- It stands for the heartbeat that was under way when shutdown began. -/
  | fallback (o : UpdateOutcome) (stage : c.before.stage = .updating)
      (still : x.before.stage = .updating) (answer : x.happening = .event (.answer (.update o)))

/-- A deregistration at its place in a history: shutdown had begun, every call before was answered,
and no call comes behind. -/
structure Farewell (newer older : List Moment) : Prop where
  cancelled : ∃ x ∈ older, x.happening = .event .cancel
  answered : ∀ since x before call, older = since ++ x :: before → call ∈ x.calls →
    Answered call since
  last : callsIn newer = []

/-- The shutdown that begins at the moment `c` of a run, behind the history `earlier`, and goes on
with the history `later`. -/
structure OrderlyShutdown (later : List Moment) (c : Moment) (earlier : List Moment) (s : System) :
    Prop where
  no_update : ∀ x ∈ later, ¬ x.Updates
  once : (callsIn later).countP Call.isRegister ≤ 1
  leftover : ∀ newer x older p, later = newer ++ x :: older → x.Registers p →
    Leftover c x (older ++ c :: earlier)
  /-- At most one deregistration begins, and it begins in order. -/
  deregisters : (callsIn (later ++ c :: earlier)).countP Call.isDeregister ≤ 1
  farewell : ∀ newer d older i, later ++ c :: earlier = newer ++ d :: older →
    .deregister i ∈ d.calls → Farewell newer older
  /-- The coordinator takes a few steps, whatever the registry answers. -/
  steps : later.countP (·.happening.isOwn) ≤ 6
  answers : ∀ a, s.stage.isAnsweredBy a = true → (s.step (.event (.answer a))).isSome = true
  /-- When it can take no more, a deregistration has begun and the instance is stopped. -/
  ends : (∀ h : Happening, h.isOwn = true → s.step h = none) →
    (callsIn (later ++ c :: earlier)).countP Call.isDeregister = 1 ∧ s.self.state = .stopped ∧
      s.timer.stopped = true
  /-- When listening has ended, no expiry counts any more. -/
  timer : ∀ x ∈ later ++ c :: earlier, x.after.stage.isOver = true →
    s.timer.stopped = true ∧ ∀ g, s.timer.isCurrent g = false
  deregistering : ∀ x ∈ later ++ c :: earlier, x.after.self.state = .deregistering →
    s.self.state = .deregistering ∨ s.self.state = .stopped
  stopped : ∀ x ∈ later ++ c :: earlier, x.after.self.state = .stopped → s.self.state = .stopped

lemma Run.leftover {i : Identity} {p : Profile}
    (run : Run (.ofInstance self store retryDelay) ((newer ++ x :: older) ++ c :: earlier) s)
    (cancels : c.after = { c.before with cancelled := true }) (closing : c.after.IsClosing)
    (begins : .register i p ∈ x.calls) : Leftover c x (older ++ c :: earlier) := by
  obtain ⟨opening, -, behind⟩ := run.at_moment
  obtain ⟨since, change, -⟩ := behind.at_moment
  obtain ⟨e, event, rule⟩ := change.rule_of_calls begins
  have closing' := since.closing closing
  have left : 0 < x.before.attemptsLeft := by
    have one : 0 < x.calls.countP Call.isRegister := List.countP_pos_iff.mpr ⟨_, begins, rfl⟩
    have fewer := rule.attemptsLeft closing'
    omega
  -- What is left was left when shutdown began, so the stage tells which attempt it is.
  obtain ⟨stage, now⟩ := since.stage_of_attemptsLeft closing left
  rw [cancels] at stage now
  rcases rule.leftover closing' begins with starting | ⟨due, retrying, come⟩ | ⟨updating, o, rfl⟩
  · rw [List.append_assoc, List.cons_append] at run
    exact .first (stage ▸ starting) (run.at_moment.1.starting starting)
  · have still := now due (stage ▸ retrying)
    have early := opening.punctual.attempt due (stage ▸ retrying)
    obtain rfl : due = c.before.now := Nat.le_antisymm (still ▸ come) early
    exact .due (stage ▸ retrying) stage still
  · exact .fallback o (stage ▸ updating) updating event

lemma Run.farewell {i : Identity}
    (run : Run (.ofInstance self store retryDelay) (newer ++ d :: older) s)
    (begins : .deregister i ∈ d.calls) : Farewell newer older := by
  obtain ⟨before, change, behind⟩ := run.at_moment
  obtain ⟨e, -, rule⟩ := change.rule_of_calls begins
  obtain ⟨stage, under⟩ := rule.stopped_of_deregister begins
  refine ⟨?_, ?_, (behind.silent (by rw [under]; rfl)).1⟩
  · exact before.exists_cancel rfl (before.consistent.cancelled (by rw [stage]; rfl))
  · rintro since x earlier call rfl mem
    apply (before.answered_of_begins mem).resolve_right
    intro waits
    obtain ⟨a, answers⟩ := call.exists_answer
    have waits := waits a
    rw [stage, answers] at waits
    cases a <;> cases waits

/-- Shutdown is orderly, whenever it begins and whatever the registry answers. -/
theorem orderly_shutdown (delay : 0 < retryDelay)
    (run : Run (.ofInstance self store retryDelay) (later ++ c :: earlier) s)
    (cancels : c.happening = .event .cancel) : OrderlyShutdown later c earlier s := by
  obtain ⟨before, change, behind⟩ := run.at_moment
  have begun := (cancels ▸ change).cancel
  have closing : c.after.IsClosing := by
    rw [begun]
    exact ⟨rfl, before.delay delay⟩
  have count := run.farewells
  have consistent := run.consistent
  constructor
  · intro x mem
    exact behind.no_update closing mem
  · have left := behind.attemptsLeft closing
    have few := c.after.attemptsLeft_le
    omega
  · rintro newer x older p rfl ⟨i, begins⟩
    exact run.leftover begun closing begins
  · have few := s.stage.farewells_le
    omega
  · intro newer d older i same begins
    rw [same] at run
    exact run.farewell begins
  · have left := behind.stepsLeft closing
    have few := c.after.stepsLeft_le
    omega
  · intro a under
    exact System.takes_answer under
  · intro stuck
    have ended := System.ended_of_stuck (behind.closing closing) stuck
    rw [ended] at count
    refine ⟨count, consistent.stopped.mpr ended, ?_⟩
    rw [consistent.timer, ended]
    rfl
  · intro x mem past
    obtain ⟨later', earlier', same⟩ := List.append_of_mem mem
    rw [same] at run
    have past := run.cut.2.keeps_rule (P := fun c => c.stage.isOver = true)
      (fun rule h => rule.isOver h) past
    have stopped := consistent.timer.trans past
    refine ⟨stopped, ?_⟩
    intro g
    simp [Heartbeat.isCurrent, stopped]
  · intro x mem state
    obtain ⟨later', earlier', same⟩ := List.append_of_mem mem
    rw [same] at run
    obtain ⟨upto, behind⟩ := run.cut
    have under := upto.consistent.deregistering.mp state
    have gone := (behind.silent (Stage.farewells_eq_one.mpr (.inl under))).2
    exact (Stage.farewells_eq_one.mp gone).imp consistent.deregistering.mpr consistent.stopped.mpr
  · intro x mem state
    obtain ⟨later', earlier', same⟩ := List.append_of_mem mem
    rw [same] at run
    obtain ⟨upto, behind⟩ := run.cut
    have ended := upto.consistent.stopped.mp state
    exact consistent.stopped.mpr
      (behind.keeps_rule (P := fun c => c.stage = .ended) (fun rule h => rule.ended h) ended)

/-- The first heartbeat begins. -/
def heartbeatUnderWay : List Happening := [.event .act, .event (.elapse 60000)] ++ bootAtOnce

/-- The heartbeat fails, the registration that stands for it is accepted, and the deregistration
fails. -/
def interrupted : List Happening :=
  [.event (.answer (.deregister (.failed (.unexpectedStatus 503)))), .event .deregister,
    .event .act, .event (.answer (.register (.updated none))),
    .event (.answer (.update (.failed (.unexpectedStatus 503))))]

theorem orderly_shutdown_interrupted :
    ∃ earlier s₁ s₂ later s, servingOne.play heartbeatUnderWay = some (earlier, s₁) ∧
      s₁.step (.event .cancel) = some (s₂, []) ∧ s₂.play interrupted = some (later, s) ∧
      s.stage = .ended ∧ OrderlyShutdown later ⟨s₁, .event .cancel, [], s₂⟩ earlier s := by
  obtain ⟨earlier, s₁, s₂, later, s, before, cancel, behind, ended⟩ :
      ∃ earlier s₁ s₂ later s, servingOne.play heartbeatUnderWay = some (earlier, s₁) ∧
        s₁.step (.event .cancel) = some (s₂, []) ∧ s₂.play interrupted = some (later, s) ∧
        s.stage = .ended :=
    ⟨_, _, _, _, _, rfl, rfl, rfl, rfl⟩
  have run := ((Run.of_play _ before).next cancel).append (.of_play _ behind)
  exact ⟨earlier, s₁, s₂, later, s, before, cancel, behind, ended,
    orderly_shutdown (by decide) run rfl⟩

end SliceSelection.Lifecycle
