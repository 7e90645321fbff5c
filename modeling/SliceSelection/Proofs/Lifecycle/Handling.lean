import SliceSelection.Proofs.Lifecycle.Standing

/-!
# The handling of an expiry

An expiry that counts is handled from the moment it is taken until the coordinator listens again.
Meanwhile a heartbeat is answered, and if that tells that the registration is lost an attempt to
register is answered too. The end of the handling arms the timer, and apart from that only the
acceptance of a registration does.
-/

namespace SliceSelection.Lifecycle

open Registry

/-- What the registry answered in a history, the last answer first. -/
def answersIn (history : List Moment) : List Answer := history.filterMap (·.happening.answer?)

lemma answersIn_cons_of_answer {m : Moment} {history : List Moment} {a : Answer}
    (answer : m.happening = .event (.answer a)) :
    answersIn (m :: history) = a :: answersIn history := by
  simp [answersIn, answer, Happening.answer?]

lemma answersIn_cons_of_none {m : Moment} {history : List Moment}
    (quiet : m.happening.answer? = none) : answersIn (m :: history) = answersIn history :=
  List.filterMap_cons_none quiet

/-- How far the handling of an expiry has come behind the beginning of its heartbeat. -/
inductive ExpiryHandling : List Moment → System → Prop where
  /-- The heartbeat is under way. -/
  | beating {later : List Moment} {s : System} (stage : s.stage = .updating)
      (calls : callsIn later = []) (answers : answersIn later = []) : ExpiryHandling later s
  /-- The registration is lost, and an attempt is under way. -/
  | registering {later : List Moment} {s : System} {o : UpdateOutcome} {i : Identity} {p : Profile}
      (stage : s.stage = .registering .lostHeartbeat p) (calls : callsIn later = [.register i p])
      (answers : answersIn later = [.update o]) (lost : o.losesRegistration = true) :
      ExpiryHandling later s
  /-- The heartbeat kept the registration. -/
  | kept {m : Moment} {during : List Moment} {o : UpdateOutcome}
      (answer : m.happening = .event (.answer (.update o))) (calls : callsIn (m :: during) = [])
      (answers : answersIn during = []) (keeps : o.losesRegistration = false)
      (stage : m.after.stage = .listening) (state : m.after.self.state = .registered) :
      ExpiryHandling (m :: during) m.after
  /-- The attempt was answered. -/
  | registered {m : Moment} {during : List Moment} {r : RegisterOutcome} {o : UpdateOutcome}
      {i : Identity} {p : Profile} (answer : m.happening = .event (.answer (.register r)))
      (silent : m.calls = []) (calls : callsIn during = [.register i p])
      (answers : answersIn during = [.update o]) (lost : o.losesRegistration = true)
      (stage : m.after.stage = .listening) : ExpiryHandling (m :: during) m.after

/-- The timer is armed. -/
def Moment.IsArming (m : Moment) : Prop := ∃ seconds, m.Arms seconds

/-- Arming begins a generation. -/
lemma Moment.not_isArming {m : Moment}
    (same : m.after.timer.generation = m.before.timer.generation) : ¬m.IsArming := by
  rintro ⟨seconds, running, armed⟩
  rw [armed, Heartbeat.arm_eq running] at same
  exact Nat.succ_ne_self _ same

namespace Coordinator

variable {c c' : Coordinator} {e : Event} {calls : List Call}

/-- A state that is final is one in which no expiry counts. -/
lemma Consistent.unfinished_of_current (h : c.Consistent) {g : Nat}
    (current : c.timer.isCurrent g = true) : c.self.state.isFinal = false := by
  have running := (Heartbeat.isCurrent_iff.mp current).1
  rw [h.timer] at running
  have deregistering := h.deregistering
  have stopped := h.stopped
  cases state : c.self.state <;> simp_all [State.isFinal, Stage.isOver]

namespace Rule

lemma updating (rule : Rule c e c' calls) {i : Identity} {patch : List PatchItem}
    (begins : .update i patch ∈ calls) : c'.stage = .updating := by
  cases rule with
  | beat => rfl
  | _ => simp at begins

lemma beating (rule : Rule c e c' calls) (stage : c.stage = .updating) :
    (c'.stage = .updating ∧ calls = [] ∧ (Happening.event e).answer? = none) ∨
      ∃ o, e = .answer (.update o) ∧
        (o.losesRegistration = false ∧ calls = [] ∧ c'.stage = .listening ∧
            c'.self.state = .registered ∨
          o.losesRegistration = true ∧ ∃ i p, calls = [.register i p] ∧
            c'.stage = .registering .lostHeartbeat p) := by
  cases rule with
  | board | cancel | elapse | approach => exact .inl ⟨stage, rfl, rfl⟩
  | kept _ keeps => exact .inr ⟨_, rfl, .inl ⟨keeps, rfl, rfl, rfl⟩⟩
  | lost _ lost => exact .inr ⟨_, rfl, .inr ⟨lost, _, _, rfl, rfl⟩⟩
  | boot other | giveUp other | stop other | hear other | disregard other | deafen other
  | beat other | ignore other | retry other | accepted other | refusedBoot other
  | refusedChange other | refusedAgain other | deregister other | deregistered other =>
    exact absurd (stage.symm.trans other) (by simp)

lemma registeringAgain (rule : Rule c e c' calls) {p : Profile}
    (stage : c.stage = .registering .lostHeartbeat p) :
    (c'.stage = .registering .lostHeartbeat p ∧ calls = [] ∧ (Happening.event e).answer? = none) ∨
      ∃ r, e = .answer (.register r) ∧ calls = [] ∧ c'.stage = .listening := by
  cases rule with
  | board | cancel | elapse | approach => exact .inl ⟨stage, rfl, rfl⟩
  | accepted | refusedAgain => exact .inr ⟨_, rfl, rfl, rfl⟩
  | boot other | giveUp other | stop other | hear other | disregard other | deafen other
  | beat other | ignore other | retry other | refusedBoot other | refusedChange other | kept other
  | lost other | deregister other | deregistered other =>
    exact absurd (stage.symm.trans other) (by simp)

end Rule

end Coordinator

variable {s s' s₀ : System} {h : Happening} {calls : List Call} {later history : List Moment}

/-- The timer is armed when a registration is accepted and when the handling of an expiry ends. -/
lemma Change.isArming_iff (change : Change s h s' calls) (consistent : s.Consistent) :
    Moment.IsArming ⟨s, h, calls, s'⟩ ↔
      Moment.Accepts ⟨s, h, calls, s'⟩ ∨ s.stage.handled = 1 ∧ s'.stage.handled = 0 := by
  have running (going : s.stage.isOver = false) : s.timer.stopped = false :=
    consistent.timer.trans going
  have rests (same : s'.timer.generation = s.timer.generation) :
      ¬Moment.IsArming ⟨s, h, calls, s'⟩ := Moment.not_isArming same
  have lasts (same : s'.stage = s.stage) (quiet : h.answer? = none) :
      ¬(Moment.Accepts ⟨s, h, calls, s'⟩ ∨ s.stage.handled = 1 ∧ s'.stage.handled = 0) := by
    rintro (⟨o, answer, -⟩ | ⟨one, zero⟩)
    · have some : h.answer? = some _ := congrArg Happening.answer? answer
      rw [quiet] at some
      cases some
    · rw [same, one] at zero
      cases zero
  cases change with
  | repeated | moved | published | close => exact iff_of_false (rests rfl) (lasts rfl rfl)
  | event own rule =>
    cases rule with
    | accepted stage outcome =>
      exact iff_of_true ⟨_, running (by rw [stage]; rfl), rfl⟩ (.inl ⟨_, rfl, outcome⟩)
    | refusedAgain stage | kept stage =>
      exact iff_of_true ⟨_, running (by rw [stage]; rfl), rfl⟩ (.inr ⟨by rw [stage]; rfl, rfl⟩)
    | stop stage =>
      refine iff_of_false ?_ ?_
      · rintro ⟨seconds, going, armed⟩
        have stopped : true = (s.timer.arm s.now seconds).stopped :=
          congrArg Heartbeat.stopped armed
        rw [Heartbeat.stopped_arm, going] at stopped
        cases stopped
      · simp [stage, Stage.handled, Moment.Accepts]
    | elapse => exact iff_of_false (rests Heartbeat.generation_elapse) (lasts rfl rfl)
    | board | cancel | approach | disregard | deafen | ignore =>
      exact iff_of_false (rests rfl) (lasts rfl rfl)
    | boot stage | giveUp stage | hear stage | beat stage | retry stage | refusedBoot stage
    | refusedChange stage | lost stage | deregister stage | deregistered stage =>
      refine iff_of_false (rests rfl) ?_
      simp [stage, Stage.handled, Moment.Accepts, RegisterOutcome.isAccepted]

lemma Change.listens_of_accepted {o : RegisterOutcome}
    (change : Change s (.event (.answer (.register o))) s' calls) (accepted : o.isAccepted = true) :
    s'.stage = .listening := by
  cases change with
  | event own rule => exact (rule.registered_of_accepted accepted).1

lemma Change.handling (change : Change s h s' calls) (handling : ExpiryHandling later s)
    (under : s.stage.handled = 1) : ExpiryHandling (⟨s, h, calls, s'⟩ :: later) s' := by
  cases handling with
  | kept _ _ _ _ stage | registered _ _ _ _ _ stage => simp [stage, Stage.handled] at under
  | beating stage silent answers =>
    cases change with
    | repeated | moved | published | close => exact .beating stage silent answers
    | event own rule =>
      rcases rule.beating stage with ⟨same, rfl, none⟩ | ⟨o, rfl, ⟨keeps, rfl, listens, state⟩ |
        ⟨lost, i, p, rfl, registering⟩⟩
      · exact .beating same silent ((answersIn_cons_of_none none).trans answers)
      · exact .kept rfl silent answers keeps listens state
      · refine .registering (i := i) registering ?_ ?_ lost
        · rw [callsIn_cons, silent, List.append_nil]
        · exact congrArg (Answer.update o :: ·) answers
  | registering stage called answers lost =>
    cases change with
    | repeated | moved | published | close => exact .registering stage called answers lost
    | event own rule =>
      rcases rule.registeringAgain stage with ⟨same, rfl, none⟩ | ⟨r, rfl, rfl, listens⟩
      · exact .registering same called ((answersIn_cons_of_none none).trans answers) lost
      · exact .registered rfl rfl called answers lost listens

/-- Behind the beginning of a heartbeat its expiry is handled until the coordinator listens. -/
lemma Run.handling (run : Run s₀ later s) (start : s₀.stage = .updating)
    (under : ∀ y ∈ later, y.before.stage.handled = 1) : ExpiryHandling later s := by
  induction run with
  | start => exact .beating start rfl rfl
  | next _ step ih =>
    obtain ⟨now, before⟩ := List.forall_mem_cons.mp under
    exact (Change.of_step step).handling (ih before) now

/-- While an expiry is being handled, it was being handled behind every moment. -/
lemma Run.handled_after (run : Run s₀ history s)
    (under : ∀ y ∈ history, y.before.stage.handled = 1) (now : s.stage.handled = 1) :
    ∀ y ∈ history, y.after.stage.handled = 1 := by
  induction run with
  | start =>
    intro y mem
    cases mem
  | next _ _ ih =>
    rw [List.forall_mem_cons] at under ⊢
    exact ⟨now, ih under.2 under.1⟩

/-- Taking an expiry that counts begins a heartbeat, and with it the handling of the expiry. -/
lemma Run.handling_of_takes {self : Instance} {store : SliceConfig} {retryDelay : Nat} {u : Moment}
    {g : Nat} {earlier : List Moment}
    (run : Run (.ofInstance self store retryDelay) (later ++ u :: earlier) s) (takes : u.Takes g)
    (current : u.before.timer.isCurrent g = true)
    (under : ∀ y ∈ later, y.before.stage.handled = 1) :
    u.calls = [.update u.before.self.identity heartbeatPatch] ∧ u.after.stage = .updating ∧
      ExpiryHandling later s := by
  obtain ⟨before, change, behind⟩ := run.at_moment
  obtain ⟨e, rule⟩ := change.rule
  rcases rule.takes takes with ⟨-, begins⟩ | ⟨idle, -, -⟩
  · have updating := rule.updating (begins ▸ List.mem_singleton_self _)
    exact ⟨begins, updating, behind.handling updating under⟩
  · have unfinished := before.consistent.unfinished_of_current current
    simp [current, unfinished] at idle

end SliceSelection.Lifecycle
