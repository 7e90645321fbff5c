import SliceSelection.Proofs.Lifecycle.Run

/-!
# Attempts to register

Every attempt carries the networks that the store holds when it begins, and while it is under way
nothing else begins. The store in turn holds the networks published last.
-/

namespace SliceSelection.Lifecycle

open Registry

/-! ### The networks in the store -/

@[simp] lemma Coordinator.announced_announcement (c : Coordinator) :
    c.announcement.announced = c.board.store.plmns := by
  cases h : c.board.store.plmns <;>
    simp [Coordinator.announcement, Instance.profile, Instance.withState, Profile.announced, h]

@[simp] lemma Coordinator.store_readBoard (c : Coordinator) :
    c.readBoard.store = c.board.store := rfl

namespace Coordinator.Rule

variable {c c' : Coordinator} {e : Event} {calls : List Call}

lemma store (rule : Rule c e c' calls) (own : e.isBoard = false) :
    c'.board.store = c.board.store := by
  cases rule with
  | board => cases own
  | accepted _ _ =>
    simp only
    split <;> rfl
  | _ => rfl

/-- An attempt carries the networks in the store. -/
lemma announced (rule : Rule c e c' calls) {i : Identity} {p : Profile}
    (begins : .register i p ∈ calls) : p.announced = c'.board.store.plmns := by
  cases rule with
  | boot | retry | hear | lost =>
    simp only [List.mem_singleton, Call.register.injEq] at begins
    simp [begins.2]
  | _ => simp at begins

/-- An attempt that is under way was just begun, or was under way before and nothing began. -/
lemma registering (rule : Rule c e c' calls) {t : Trigger} {sent : Profile}
    (stage : c'.stage = .registering t sent) :
    (∃ i, calls = [.register i sent]) ∨ c.stage = .registering t sent ∧ calls = [] := by
  cases rule with
  | boot | retry | hear | lost =>
    cases stage
    exact .inl ⟨_, rfl⟩
  | board | cancel | elapse | approach => exact .inr ⟨stage, rfl⟩
  | disregard listening | deafen listening | ignore listening =>
    exact absurd (stage.symm.trans listening) (by simp)
  | _ => cases stage

lemma registered_of_accepted {o : RegisterOutcome} (rule : Rule c (.answer (.register o)) c' calls)
    (outcome : o.isAccepted = true) : c'.stage = .listening ∧ c'.self.state = .registered := by
  cases rule with
  | accepted => exact ⟨rfl, rfl⟩
  | _ => cases outcome

end Coordinator.Rule

variable {s s' s₀ : System} {h : Happening} {calls : List Call} {history : List Moment}

lemma Change.plmns (change : Change s h s' calls) :
    s'.board.store.plmns =
      ((⟨s, h, calls, s'⟩ : Moment).published?).getD s.board.store.plmns := by
  cases change with
  | repeated _ same => simp [Moment.published?, Applier.apply, same]
  | moved _ fresh same => simp [Moment.published?, Applier.apply, fresh, same]
  | published _ fresh other =>
    simp [Moment.published?, Applier.apply, fresh, other, Channel.publish]
  | close => simp [Moment.published?]
  | event own rule => simp [Moment.published?, rule.store own]

/-- The networks in the store are those published last, or those of the start. -/
lemma Run.plmns (run : Run s₀ history s) :
    s.board.store.plmns = (publishedIn history).headD s₀.board.store.plmns := by
  induction run with
  | start => rfl
  | next _ step ih =>
    rw [(Change.of_step step).plmns, publishedIn, List.filterMap_cons]
    split
    · next quiet => rw [quiet, Option.getD_none, ih, publishedIn]
    · next ps news => rw [news, Option.getD_some, List.headD_cons]

lemma Change.announced (change : Change s h s' calls) {i : Identity} {p : Profile}
    (begins : .register i p ∈ calls) :
    p.announced = s.board.store.plmns ∧ s'.board.store = s.board.store := by
  cases change with
  | event own rule =>
    have store := rule.store own
    exact ⟨(rule.announced begins).trans (congrArg _ store), store⟩
  | _ => simp at begins

/-- The acceptance of the first registration marks the channel read, leaves the store alone and
arms the timer. -/
lemma Change.acceptsBoot (change : Change s h s' calls) {sent : Profile}
    (under : s.stage = .registering .boot sent) (listens : s'.stage = .listening) :
    s'.board = s.readBoard ∧ s'.now = s.now ∧
      ∃ seconds, s'.timer = s.timer.arm s.now seconds := by
  cases change with
  | event own rule =>
    cases rule with
    | accepted stage _ =>
      obtain ⟨rfl, -⟩ : Trigger.boot = _ ∧ sent = _ := by simpa using under.symm.trans stage
      exact ⟨rfl, rfl, _, rfl⟩
    | board => cases own
    | refusedBoot => cases listens
    | cancel | elapse | approach => exact absurd (under.symm.trans listens) (by simp)
    | boot stage | giveUp stage | stop stage | hear stage | disregard stage | deafen stage
    | beat stage | ignore stage | retry stage | refusedChange stage | refusedAgain stage
    | kept stage | lost stage | deregister stage | deregistered stage =>
      exact absurd (under.symm.trans stage) (by simp)
  | repeated | moved | published | close => exact absurd (under.symm.trans listens) (by simp)

/-- Where an attempt is under way, it began at some moment, and nothing began since. -/
lemma Run.registering (run : Run s₀ history s) {t : Trigger} {sent : Profile}
    (start : s₀.stage ≠ .registering t sent) (stage : s.stage = .registering t sent) :
    ∃ during m earlier, history = during ++ m :: earlier ∧ m.Registers sent ∧
      m.after.stage = .registering t sent ∧
      ∀ x ∈ during, x.calls = [] ∧ x.after.stage = .registering t sent := by
  induction run with
  | start => exact absurd stage start
  | @next history s s' h calls _ step ih =>
    obtain ⟨e, rule⟩ := (Change.of_step step).rule
    rcases rule.registering stage with ⟨i, rfl⟩ | ⟨same, rfl⟩
    · exact ⟨[], _, history, rfl, ⟨i, by simp⟩, stage, by simp⟩
    · obtain ⟨during, m, earlier, rfl, begins, under, quiet⟩ := ih same
      refine ⟨_ :: during, m, earlier, rfl, begins, under, ?_⟩
      rw [List.forall_mem_cons]
      exact ⟨⟨rfl, stage⟩, quiet⟩

end SliceSelection.Lifecycle
