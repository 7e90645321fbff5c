import SliceSelection.Proofs.Lifecycle.Run

/-!
# Calls and their answers

The registry is called again only when it has answered the call before, and nothing is called behind
the deregistration.
-/

namespace SliceSelection.Lifecycle

open Registry

/-- Whether a call is a deregistration. -/
def Call.isDeregister : Call → Bool
  | deregister _ => true
  | _ => false

/-- Whether an answer is one to a call. -/
def Call.isAnsweredBy : Call → Answer → Bool
  | register _ _, .register _ => true
  | update _ _, .update _ => true
  | deregister _, .deregister _ => true
  | _, _ => false

/-- Whether an answer is one to the call that is under way. -/
def Stage.isAnsweredBy : Stage → Answer → Bool
  | registering _ _, .register _ => true
  | updating, .update _ => true
  | deregistering, .deregister _ => true
  | _, _ => false

/-- The number of deregistrations that have begun. -/
def Stage.farewells : Stage → Nat
  | deregistering => 1
  | ended => 1
  | _ => 0

lemma Stage.farewells_le {stage : Stage} : stage.farewells ≤ 1 := by
  cases stage <;> simp [farewells]

lemma Stage.farewells_eq_one {stage : Stage} :
    stage.farewells = 1 ↔ stage = .deregistering ∨ stage = .ended := by
  cases stage <;> simp [farewells]

namespace Coordinator.Rule

variable {c c' : Coordinator} {e : Event} {calls : List Call}

/-- A call that begins is under way. -/
lemma awaits (rule : Rule c e c' calls) {call : Call} (begins : call ∈ calls) (a : Answer) :
    c'.stage.isAnsweredBy a = call.isAnsweredBy a := by
  cases rule with
  | boot | retry | hear | beat | lost | deregister =>
    cases List.mem_singleton.mp begins
    cases a <;> rfl
  | _ => cases begins

/-- A call that is under way stays so until it is answered. -/
lemma waits (rule : Rule c e c' calls) {a : Answer} (under : c.stage.isAnsweredBy a = true) :
    (c'.stage = c.stage ∧ calls = []) ∨
      ∃ b, e = .answer b ∧ c.stage.isAnsweredBy b = true := by
  cases rule with
  | board | cancel | elapse | approach => exact .inl ⟨rfl, rfl⟩
  | accepted stage | refusedBoot stage | refusedChange stage | refusedAgain stage | kept stage
  | lost stage | deregistered stage => exact .inr ⟨_, rfl, by rw [stage]; rfl⟩
  | boot stage | giveUp stage | stop stage | hear stage | disregard stage | deafen stage
  | beat stage | ignore stage | retry stage | deregister stage =>
    rw [stage] at under
    cases a <;> cases under

/-- The stage tells how many deregistrations have begun. -/
lemma farewells (rule : Rule c e c' calls) :
    calls.countP Call.isDeregister + c.stage.farewells = c'.stage.farewells := by
  cases rule with
  | board | cancel | elapse | approach | disregard | deafen | ignore => exact Nat.zero_add _
  | boot stage | giveUp stage | stop stage | hear stage | beat stage | retry stage | accepted stage
  | refusedBoot stage | refusedChange stage | refusedAgain stage | kept stage | lost stage
  | deregister stage | deregistered stage =>
    rw [stage]
    rfl

/-- Behind the deregistration no call begins. -/
lemma silent (rule : Rule c e c' calls) (gone : c.stage.farewells = 1) : calls = [] := by
  cases rule with
  | boot stage | hear stage | beat stage | retry stage | lost stage | deregister stage =>
    rw [stage] at gone
    cases gone
  | _ => rfl

/-- The deregistration begins when listening has ended. -/
lemma stopped_of_deregister (rule : Rule c e c' calls) {i : Identity}
    (begins : .deregister i ∈ calls) : c.stage = .stopped ∧ c'.stage = .deregistering := by
  cases rule with
  | deregister stage => exact ⟨stage, rfl⟩
  | _ => simp at begins

end Coordinator.Rule

variable {s s₀ : System} {newer older history : List Moment} {x : Moment}

/-! ### Histories -/

/-- A call was answered in a history, before any other call began. -/
def Answered (call : Call) (history : List Moment) : Prop :=
  ∃ after z during a, history = after ++ z :: during ∧ (∀ y ∈ during, y.calls = []) ∧
    z.happening = .event (.answer a) ∧ call.isAnsweredBy a = true

lemma Call.exists_answer (call : Call) : ∃ a, call.isAnsweredBy a = true := by
  cases call with
  | register => exact ⟨.register (.updated none), rfl⟩
  | update => exact ⟨.update (.success none), rfl⟩
  | deregister => exact ⟨.deregister .success, rfl⟩

/-- A call that is under way is answered, or nothing else begins. -/
lemma Run.answered (run : Run s₀ history s) {call : Call}
    (under : ∀ a, s₀.stage.isAnsweredBy a = call.isAnsweredBy a) :
    Answered call history ∨
      (∀ a, s.stage.isAnsweredBy a = call.isAnsweredBy a) ∧ ∀ y ∈ history, y.calls = [] := by
  induction run with
  | start => exact .inr ⟨under, by simp⟩
  | @next history s s' h calls run step ih =>
    rcases ih with ⟨after, z, during, a, rfl, quiet, answer, answers⟩ | ⟨waits, quiet⟩
    · exact .inl ⟨_ :: after, z, during, a, rfl, quiet, answer, answers⟩
    · obtain ⟨a, answers⟩ := call.exists_answer
      have change := Change.of_step step
      cases change with
      | event own rule =>
        rcases rule.waits ((waits a).trans answers) with ⟨same, silent⟩ | ⟨b, rfl, answered⟩
        · refine .inr ⟨?_, List.forall_mem_cons.mpr ⟨silent, quiet⟩⟩
          intro a
          rw [← waits a]
          exact congrArg (Stage.isAnsweredBy · a) same
        · exact .inl ⟨[], _, history, b, rfl, quiet, rfl, (waits b).symm.trans answered⟩
      | repeated | moved | published | close =>
        exact .inr ⟨waits, List.forall_mem_cons.mpr ⟨rfl, quiet⟩⟩

/-- Behind a moment at which a call began, it was answered or is under way. -/
lemma Run.answered_of_begins (run : Run s₀ (newer ++ x :: older) s) {call : Call}
    (begins : call ∈ x.calls) :
    Answered call newer ∨ ∀ a, s.stage.isAnsweredBy a = call.isAnsweredBy a := by
  obtain ⟨-, change, behind⟩ := run.at_moment
  obtain ⟨e, rule⟩ := change.rule
  exact (behind.answered (rule.awaits begins)).imp_right And.left

lemma Run.farewells (run : Run s₀ history s) :
    (callsIn history).countP Call.isDeregister + s₀.stage.farewells = s.stage.farewells := by
  induction run with
  | start => exact Nat.zero_add _
  | next run step ih =>
    obtain ⟨e, rule⟩ := (Change.of_step step).rule
    have one := rule.farewells
    rw [callsIn_cons, List.countP_append]
    omega

lemma Run.silent (run : Run s₀ history s) (gone : s₀.stage.farewells = 1) :
    callsIn history = [] ∧ s.stage.farewells = 1 := by
  induction run with
  | start => exact ⟨rfl, gone⟩
  | next run step ih =>
    obtain ⟨e, rule⟩ := (Change.of_step step).rule
    obtain ⟨silent, gone⟩ := ih
    have quiet := rule.silent gone
    refine ⟨by rw [callsIn_cons, quiet, silent, List.append_nil], ?_⟩
    rw [← rule.farewells, quiet, List.countP_nil, Nat.zero_add, gone]

end SliceSelection.Lifecycle
