import SliceSelection.Proofs.Lifecycle.Handling

/-!
# The interval in force

An accepted registration sets the interval between heartbeats, and a heartbeat that succeeds may set
another. The timer is armed for what these answers amount to: when a registration is accepted, and
once at the end of the handling of an expiry, when all its calls were answered.
-/

namespace SliceSelection.Lifecycle

open Registry

/-- A number of seconds of which zero is none. -/
def positive? (seconds : Option UInt32) : Option Nat := (seconds.map UInt32.toNat).filter (0 < ·)

/-- The seconds that are in force behind an answer where some were in force before. -/
def Answer.interval (configured : Option UInt32) (before : Option Nat) : Answer → Option Nat
  | register (.failed _) => before
  | register o =>
    some (((positive? (o.profile.bind (·.heartbeat))).or (positive? configured)).getD 60)
  | update (.success p) => (positive? (p.bind (·.heartbeat))).or before
  | _ => before

/-- The seconds that are in force behind a history, if a registration was accepted. -/
def intervalIn (configured : Option UInt32) (history : List Moment) : Option Nat :=
  (answersIn history).foldr (fun a before => a.interval configured before) none

/-! ### Seconds -/

variable {seconds : Option UInt32} {n : Nat}

lemma pos_of_positive? (h : positive? seconds = some n) : 0 < n := by
  simpa using (Option.filter_eq_some_iff.mp h).2

lemma positive?_some {n : UInt32} : positive? (some n) = if 0 < n then some n.toNat else none := by
  simp [positive?, Option.filter_some, UInt32.lt_iff_toNat_lt]

lemma positiveSeconds_none : positiveSeconds none = none := rfl

lemma positiveSeconds_some {n : UInt32} (pos : 0 < n) :
    positiveSeconds (some n) = some n.toNat := by
  have nonzero : n ≠ 0 := fun h => absurd (h ▸ pos) (UInt32.lt_irrefl 0)
  simp [positiveSeconds, nonzero]

/-- The interval of an echoed profile counts if it is positive, and otherwise another one does. -/
lemma positiveSeconds_echoed (echoed : Option Profile) (other : Option UInt32) :
    positiveSeconds ((echoed.bind (·.heartbeatInterval)).or other) =
      (positive? (echoed.bind (·.heartbeat))).or (positiveSeconds other) := by
  have interval : echoed.bind (·.heartbeatInterval) =
      (echoed.bind (·.heartbeat)).filter (0 < ·) := by
    cases echoed <;> rfl
  rw [interval]
  cases echoed.bind (·.heartbeat) with
  | none => rfl
  | some n =>
    rw [positive?_some, Option.filter_some]
    by_cases pos : 0 < n <;> simp [pos, positiveSeconds_some]

lemma positiveSeconds_interval {p : Profile} :
    positiveSeconds p.heartbeatInterval = positive? p.heartbeat := by
  simpa [positiveSeconds_none] using positiveSeconds_echoed (some p) none

/-- A timer that was armed before keeps its interval unless a positive one is echoed. -/
lemma Heartbeat.interval_refresh {h : Heartbeat} {n : Nat} (running : h.stopped = false)
    (before : h.interval = some n) (now : Nat) (echoed : Option Profile) :
    (h.refresh now (echoed.bind (·.heartbeatInterval))).interval =
      (positive? (echoed.bind (·.heartbeat))).or h.interval := by
  have seconds := positiveSeconds_echoed echoed none
  rw [Option.or_none, positiveSeconds_none, Option.or_none] at seconds
  rw [Heartbeat.refresh, Heartbeat.arm_eq running, before, seconds]
  cases positive? (echoed.bind (·.heartbeat)) <;> rfl

/-! ### What the answers set -/

namespace Coordinator

variable {c c' : Coordinator} {e : Event} {calls : List Call} {configured : Option UInt32}

/-- The instance and an attempt that is under way offer the interval that is configured. -/
structure Offers (configured : Option UInt32) (c : Coordinator) : Prop where
  self : c.self.heartbeat = configured
  sent : ∀ t p, c.stage = .registering t p → p.heartbeat = configured

namespace Rule

lemma heartbeat (rule : Rule c e c' calls) {i : Identity} {p : Profile}
    (begins : .register i p ∈ calls) : p.heartbeat = c.self.heartbeat := by
  cases rule with
  | boot | retry | hear | lost =>
    cases List.mem_singleton.mp begins
    rfl
  | _ => simp at begins

lemma offers (rule : Rule c e c' calls) (h : c.Offers configured) : c'.Offers configured := by
  constructor
  · cases rule <;> exact h.self
  · intro t p stage
    rcases rule.registering stage with ⟨i, begins⟩ | ⟨before, -⟩
    · exact (rule.heartbeat (begins ▸ List.mem_singleton_self _)).trans h.self
    · exact h.sent t p before

/-- An answer sets the interval of the timer to what it puts in force, if one was in force while an
expiry was handled; nothing else changes it. -/
lemma interval (rule : Rule c e c' calls) (h : c.Offers configured)
    (running : c.stage.isOver = false → c.timer.stopped = false)
    (wound : c.stage.handled = 1 → c.timer.interval.isSome = true) :
    c'.timer.interval = ((Happening.event e).answer?).elim c.timer.interval
      (·.interval configured c.timer.interval) := by
  cases rule with
  | elapse => exact Heartbeat.interval_elapse
  | @accepted _ sent o stage outcome =>
    have going := running (by rw [stage]; rfl)
    have echoed := positiveSeconds_echoed o.profile sent.heartbeatInterval
    rw [positiveSeconds_interval, h.sent _ _ stage] at echoed
    simp only [Heartbeat.start, Heartbeat.arm_eq going, echoed]
    cases o with
    | failed => cases outcome
    | created | updated => rfl
  | refusedAgain stage =>
    obtain ⟨n, before⟩ := Option.isSome_iff_exists.mp (wound (by rw [stage]; rfl))
    exact Heartbeat.interval_refresh (running (by rw [stage]; rfl)) before c.now none
  | @kept o stage keeps =>
    obtain ⟨n, before⟩ := Option.isSome_iff_exists.mp (wound (by rw [stage]; rfl))
    have refreshed :=
      Heartbeat.interval_refresh (running (by rw [stage]; rfl)) before c.now o.profile
    cases o with
    | success | rejected => exact refreshed
    | failed => cases keeps
  | @lost o _ lost =>
    cases o with
    | success => cases lost
    | rejected | failed => rfl
  | _ => rfl

end Rule

end Coordinator

variable {s : System} {newer older later earlier history : List Moment} {m u y : Moment}
  {a : Answer} {before : Option Nat} {configured : Option UInt32} {g n : Nat} {p : Profile}
  {f : Failure} {self : Instance} {store : SliceConfig} {retryDelay : Nat}

namespace Answer

lemma isSome_interval (some : before.isSome = true) :
    (a.interval configured before).isSome = true := by
  match a with
  | register (.failed _) | update (.rejected _) | update (.failed _) | deregister _ => exact some
  | register (.created _ _) | register (.updated _) => rfl
  | update (.success p) => simp [interval, some]

lemma pos_of_interval (pos : ∀ n, before = some n → 0 < n)
    (h : a.interval configured before = some n) : 0 < n := by
  have first {x y : Option Nat} (hx : ∀ n, x = some n → 0 < n) (hy : ∀ n, y = some n → 0 < n) :
      ∀ n, x.or y = some n → 0 < n := by
    cases x with
    | none => exact hy
    | some k => exact hx
  match a with
  | register (.failed _) | update (.rejected _) | update (.failed _) | deregister _ =>
    exact pos n h
  | register (.created p _) | register (.updated p) =>
    obtain rfl := Option.some.inj h
    cases set : (positive? (p.bind (·.heartbeat))).or (positive? configured) with
    | none => simp [RegisterOutcome.profile, set]
    | some n =>
      simpa [RegisterOutcome.profile, set] using
        first (fun _ => pos_of_positive?) (fun _ => pos_of_positive?) n set
  | update (.success p) => exact first (fun _ => pos_of_positive?) pos n h

end Answer

lemma intervalIn_cons :
    intervalIn configured (m :: history) = m.happening.answer?.elim (intervalIn configured history)
      (·.interval configured (intervalIn configured history)) := by
  cases answer : m.happening.answer? with
  | none => simp [intervalIn, answersIn_cons_of_none answer]
  | some a => simp [intervalIn, answersIn, answer]

/-- Behind the acceptance of a registration an interval is in force. -/
lemma isSome_intervalIn (accepts : ∃ z ∈ history, z.Accepts) :
    (intervalIn configured history).isSome = true := by
  induction history with
  | nil =>
    obtain ⟨z, mem, -⟩ := accepts
    cases mem
  | cons m history ih =>
    rw [intervalIn_cons]
    obtain ⟨z, mem, o, answer, accepted⟩ := accepts
    rcases List.mem_cons.mp mem with rfl | mem
    · rw [answer]
      cases o with
      | failed => cases accepted
      | created | updated => rfl
    · have before := ih ⟨z, mem, o, answer, accepted⟩
      cases m.happening.answer? with
      | none => exact before
      | some a => exact Answer.isSome_interval before

lemma pos_of_intervalIn (h : intervalIn configured history = some n) : 0 < n := by
  induction history generalizing n with
  | nil => cases h
  | cons m history ih =>
    rw [intervalIn_cons] at h
    cases answer : m.happening.answer? with
    | none =>
      rw [answer] at h
      exact ih h
    | some a =>
      rw [answer] at h
      exact Answer.pos_of_interval (fun _ => ih) h

namespace Run

lemma offers (run : Run (.ofInstance self store retryDelay) history s) :
    s.Offers self.heartbeat :=
  run.keeps_rule (fun rule h => rule.offers h) ⟨rfl, nofun⟩

/-- The interval of the timer is the one in force. -/
lemma interval (run : Run (.ofInstance self store retryDelay) history s) :
    s.timer.interval = intervalIn self.heartbeat history := by
  induction run with
  | start => rfl
  | @next history s s' h calls run step ih =>
    have wound (handled : s.stage.handled = 1) : s.timer.interval.isSome = true := by
      rw [ih]
      apply isSome_intervalIn
      refine (run.unarmed unarmed_ofInstance).resolve_left fun idle => ?_
      exact absurd (handled.symm.trans idle.handled) Nat.one_ne_zero
    rw [intervalIn_cons, ← ih]
    cases Change.of_step step with
    | repeated | moved | published | close => rfl
    | event own rule => exact rule.interval run.offers run.consistent.timer.trans wound

lemma isArming_iff (run : Run (.ofInstance self store retryDelay) history s) (mem : m ∈ history) :
    m.IsArming ↔ m.Accepts ∨ m.before.stage.handled = 1 ∧ m.after.stage.handled = 0 := by
  obtain ⟨newer, older, rfl⟩ := List.append_of_mem mem
  obtain ⟨before, change, -⟩ := run.at_moment
  exact change.isArming_iff before.consistent

/-- Where an expiry is still being handled behind a moment, the timer was not armed at it. -/
lemma rests (run : Run (.ofInstance self store retryDelay) history s) (mem : m ∈ history)
    (handled : m.after.stage.handled = 1) : ¬m.IsArming := by
  rw [run.isArming_iff mem]
  rintro (⟨o, answer, accepted⟩ | ⟨-, past⟩)
  · have listens := (answer ▸ run.change mem).listens_of_accepted accepted
    rw [listens] at handled
    cases handled
  · exact absurd (handled.symm.trans past) Nat.one_ne_zero

end Run

/-- The last call of the handling that began at `u` is answered at the moment `m`. -/
def AnswersLast (m : Moment) (during : List Moment) (u : Moment) : Prop :=
  m.calls = [] ∧ ∃ k a, (callsIn (during ++ [u])).head? = some k ∧
    m.happening = .event (.answer a) ∧ k.isAnsweredBy a = true

/-- The end of the handling answers its last call. -/
lemma ExpiryHandling.answersLast {during : List Moment} (handling : ExpiryHandling (m :: during) s)
    (past : s.stage.handled = 0) {i : Identity} {patch : List PatchItem}
    (begins : u.calls = [.update i patch]) : AnswersLast m during u := by
  have calls : callsIn (during ++ [u]) = callsIn during ++ u.calls := by simp [callsIn]
  rw [AnswersLast, calls, begins]
  cases handling with
  | beating stage | registering stage => simp [stage, Stage.handled] at past
  | kept answer silent =>
    obtain ⟨silent, before⟩ : m.calls = [] ∧ callsIn during = [] :=
      List.append_eq_nil_iff.mp silent
    exact ⟨silent, .update i patch, _, by rw [before]; rfl, answer, rfl⟩
  | registered answer silent before =>
    exact ⟨silent, _, _, by rw [before]; rfl, answer, rfl⟩

namespace Run

lemma pacing_handled (run : Run (.ofInstance self store retryDelay) (later ++ u :: earlier) s)
    (takes : u.Takes g) (current : u.before.timer.isCurrent g = true)
    (under : ∀ y ∈ later, y.before.stage.handled = 1) :
    ¬u.IsArming ∧ (s.stage.handled = 1 → ∀ y ∈ later, ¬y.IsArming) ∧
      (s.stage.handled = 0 → ∃ m during, later = m :: during ∧ m.IsArming ∧
        AnswersLast m during u ∧ ∀ y ∈ during, ¬y.IsArming) := by
  obtain ⟨begins, updating, handling⟩ := run.handling_of_takes takes current under
  have behind := run.cut.2
  have mem : u ∈ later ++ u :: earlier := List.mem_append_right _ List.mem_cons_self
  refine ⟨run.rests mem (by rw [updating]; rfl), ?_, ?_⟩
  · intro now y mem
    exact run.rests (List.mem_append_left _ mem) (behind.handled_after under now y mem)
  · intro past
    cases behind with
    | start =>
      rw [updating] at past
      cases past
    | @next during s s' h calls behind step =>
      obtain ⟨now, before⟩ := List.forall_mem_cons.mp under
      refine ⟨_, during, rfl, ?_, handling.answersLast past begins, ?_⟩
      · exact (run.isArming_iff List.mem_cons_self).mpr (.inr ⟨now, past⟩)
      · intro y mem
        refine run.rests ?_ (behind.handled_after before now y mem)
        exact List.mem_cons_of_mem _ (List.mem_append_left _ mem)

lemma pacing_refused (run : Run (.ofInstance self store retryDelay) (newer ++ y :: older) s)
    (under : y.before.stage = .registering .plmnChange p)
    (failed : y.happening = .event (.answer (.register (.failed f)))) :
    ∃ during x before, older = during ++ x :: before ∧ x.Registers p ∧
      ∀ z ∈ y :: (during ++ [x]), ¬z.IsArming := by
  obtain ⟨before, change, -⟩ := run.at_moment
  obtain ⟨during, x, older, rfl, ⟨i, begins⟩, stage, quiet⟩ :=
    before.registering (by simp [System.ofInstance, Coordinator.ofInstance]) under
  obtain ⟨-, attempt, -⟩ := before.at_moment
  obtain ⟨e, rule⟩ := attempt.rule
  have begun := (rule.timer_register begins).2
  have ended := (failed ▸ change).timer_refused under
  refine ⟨during, x, older, rfl, ⟨i, begins⟩, ?_⟩
  rw [List.forall_mem_cons, List.forall_mem_append, List.forall_mem_singleton]
  refine ⟨Moment.not_isArming (by rw [ended]), ?_, Moment.not_isArming (by rw [begun])⟩
  intro z mem
  obtain ⟨silent, after⟩ := quiet z mem
  obtain ⟨e, rule⟩ := (before.change (List.mem_append_left _ mem)).rule
  rcases rule.registering after with ⟨i, begins⟩ | ⟨same, -⟩
  · simp [silent] at begins
  · apply Moment.not_isArming
    rcases (rule.timer_registering same after).2 with still | aged
    · rw [still]
    · rw [aged, Heartbeat.generation_elapse]

end Run

/-- How the timer is armed in a run of an instance for which some seconds are configured. -/
structure Pacing (configured : Option UInt32) (history : List Moment) (s : System) : Prop where
  interval : s.timer.interval = intervalIn configured history
  positive : ∀ n, intervalIn configured history = some n → 0 < n
  /-- Every arming is for the seconds that are in force behind its moment. -/
  arms : ∀ newer m older n, history = newer ++ m :: older → m.Arms n →
    intervalIn configured (m :: older) = some n
  /-- The timer is armed when a registration is accepted and when the handling of an expiry ends,
  and at no other moment. -/
  arming_iff : ∀ m ∈ history,
    m.IsArming ↔ m.Accepts ∨ m.before.stage.handled = 1 ∧ m.after.stage.handled = 0
  /-- While an expiry that counts is handled the timer is not armed, and at the end it is armed
  once, when the last call of the handling is answered. -/
  handled : ∀ later u earlier g, history = later ++ u :: earlier → u.Takes g →
    u.before.timer.isCurrent g = true → (∀ y ∈ later, y.before.stage.handled = 1) →
      ¬u.IsArming ∧ (s.stage.handled = 1 → ∀ y ∈ later, ¬y.IsArming) ∧
      (s.stage.handled = 0 → ∃ m during, later = m :: during ∧ m.IsArming ∧
        AnswersLast m during u ∧ ∀ y ∈ during, ¬y.IsArming)
  /-- A registration with other networks that fails arms nothing, from its beginning on. -/
  refused : ∀ newer y older p f, history = newer ++ y :: older →
    y.before.stage = .registering .plmnChange p →
    y.happening = .event (.answer (.register (.failed f))) →
      ∃ during x before, older = during ++ x :: before ∧ x.Registers p ∧
        ∀ z ∈ y :: (during ++ [x]), ¬z.IsArming

/-- The timer is armed for the interval in force, whatever is announced and answered. -/
theorem pacing (run : Run (.ofInstance self store retryDelay) history s) :
    Pacing self.heartbeat history s := by
  constructor
  case interval => exact run.interval
  case positive => exact fun _ => pos_of_intervalIn
  case arms =>
    rintro newer m older n rfl ⟨running, armed⟩
    rw [← run.cut.1.interval, armed, Heartbeat.arm_eq running]
  case arming_iff =>
    intro m mem
    exact run.isArming_iff mem
  case handled =>
    rintro later u earlier g rfl takes current under
    exact run.pacing_handled takes current under
  case refused =>
    rintro newer y older p f rfl under failed
    exact run.pacing_refused under failed

/-- The first registration is answered with an interval of ten seconds. The first heartbeat fails,
and the attempt that stands for it fails too; the second heartbeat succeeds and echoes nothing. -/
def echoedOnce : List Happening :=
  [.event (.answer (.update (.success none))), .event .act, .event (.elapse 10000),
    .event (.answer (.register (.failed (.unexpectedStatus 503)))),
    .event (.answer (.update (.failed (.unexpectedStatus 503)))), .event .act,
    .event (.elapse 10000),
    .event (.answer (.register (.updated
      (some { Profile.bare "nf-1" .nssf with heartbeat := some 10 })))),
    .event .act]

theorem pacing_echoedOnce :
    ∃ history s, servingOne.play echoedOnce = some (history, s) ∧ s.timer.due = some 30000 ∧
      Pacing none history s := by
  obtain ⟨history, s, played, due⟩ :
      ∃ history s, servingOne.play echoedOnce = some (history, s) ∧ s.timer.due = some 30000 :=
    ⟨_, _, rfl, rfl⟩
  exact ⟨history, s, played, due, pacing (.of_play _ played)⟩

end SliceSelection.Lifecycle
