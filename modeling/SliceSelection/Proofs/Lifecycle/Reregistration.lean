import Mathlib.Tactic.Common
import SliceSelection.Lifecycle.Exchange
import SliceSelection.Proofs.Lifecycle.Handling
import SliceSelection.Proofs.Registry.Refusal

/-!
# Heartbeats that call for a registration

How the exchange of a heartbeat ends decides whether the instance is registered anew while its
expiry is handled. If it is, that is the only call behind the heartbeat; if not, there is none and
the instance is registered when the coordinator listens again.
-/

namespace SliceSelection.Lifecycle

open Polling (Ending received)
open Registry

variable {s : System} {later earlier : List Moment} {u m : Moment} {o : UpdateOutcome} {g : Nat}
  {self : Instance} {store : SliceConfig} {retryDelay : Nat}

/-! ### How an exchange ends -/

lemma exists_ending_of_reply (reply : Http.Reply) :
    ∃ ending : Ending, reply.toResponse = received ending := by
  cases reply with
  | broken reason => exact ⟨.error (.connection reason), rfl⟩
  | silent => exact ⟨.error .timeout, rfl⟩
  | truncated reason => exact ⟨.error (.invalidResponse reason), rfl⟩
  | answer a => exact ⟨.ok a, rfl⟩

/-- The exchange of a call ends, whatever the peer does. -/
lemma Call.exists_ending (k : Call) (peer : Http.Outgoing → Http.Reply) :
    ∃ ending : Ending, k.send peer = k.answer (received ending) := by
  unfold Call.send Http.send
  cases k.request.check with
  | error e => exact ⟨.error e, rfl⟩
  | ok request =>
    obtain ⟨ending, same⟩ := exists_ending_of_reply (peer request)
    exact ⟨ending, congrArg k.answer same⟩

/-! ### What is called next -/

lemma mem_answersIn {a : Answer} (mem : m ∈ later) (answer : m.happening = .event (.answer a)) :
    a ∈ answersIn later := by
  rw [answersIn, List.mem_filterMap]
  exact ⟨m, mem, by rw [answer]; rfl⟩

/-- The answer to the heartbeat tells whether an attempt is called for. -/
lemma ExpiryHandling.of_answered (handling : ExpiryHandling later s)
    (answered : .update o ∈ answersIn later) :
    (o.losesRegistration = true ∧ ∃ i p, callsIn later = [.register i p]) ∨
      (o.losesRegistration = false ∧ callsIn later = [] ∧ s.stage = .listening ∧
        s.self.state = .registered) := by
  cases handling with
  | beating _ _ answers =>
    rw [answers] at answered
    cases answered
  | registering _ calls answers lost =>
    rw [answers, List.mem_singleton] at answered
    cases answered
    exact .inl ⟨lost, _, _, calls⟩
  | kept answer calls answers keeps stage state =>
    rw [answersIn_cons_of_answer answer, answers, List.mem_singleton] at answered
    cases answered
    exact .inr ⟨keeps, calls, stage, state⟩
  | registered answer silent calls answers lost =>
    rw [answersIn_cons_of_answer answer, answers] at answered
    simp only [List.mem_cons, reduceCtorEq, Answer.update.injEq, List.not_mem_nil, false_or,
      or_false] at answered
    subst answered
    exact .inl ⟨lost, _, _, (congrArg (· ++ _) silent).trans calls⟩

lemma ExpiryHandling.of_unanswered (handling : ExpiryHandling later s)
    (unanswered : answersIn later = []) : s.stage = .updating ∧ callsIn later = [] := by
  cases handling with
  | beating stage calls _ => exact ⟨stage, calls⟩
  | registering _ _ answers => simp [unanswered] at answers
  | kept answer | registered answer => simp [answersIn_cons_of_answer answer] at unanswered

/-- The handling of the expiry that is taken at the moment `u`, as far as it has come. -/
structure Reregistration (u : Moment) (later : List Moment) (s : System) : Prop where
  begins : u.calls = [.update u.before.self.identity heartbeatPatch]
  /-- Until the heartbeat is answered nothing else is called. -/
  waits : answersIn later = [] → callsIn later = []
  /-- The only call behind the heartbeat is an attempt to register, if and only if the end of the
  exchange means that the registration is lost. -/
  registers_iff : ∀ k ∈ u.calls, ∀ m ∈ later, ∀ ending,
    m.happening = .event (.answer (k.answer (received ending))) →
      ((∃ i p, callsIn later = [.register i p]) ↔ LosesRegistration ending)
  /-- Otherwise there is none, and the handling is over with the instance registered. -/
  kept : ∀ k ∈ u.calls, ∀ m ∈ later, ∀ ending,
    m.happening = .event (.answer (k.answer (received ending))) → ¬LosesRegistration ending →
      callsIn later = [] ∧ s.stage = .listening ∧ s.self.state = .registered
  /-- The coordinator takes every end of the exchange that it waits for. -/
  takes : answersIn later = [] → ∀ k ∈ u.calls, ∀ ending,
    (s.step (.event (.answer (k.answer (received ending))))).isSome = true
  /-- Whatever a peer does, the exchange with it ends in one of these ways. -/
  ends : ∀ k ∈ u.calls, ∀ peer, ∃ ending, k.send peer = k.answer (received ending)

/-- An expiry that counts is handled by a heartbeat, and behind it by an attempt to register if and
only if the end of its exchange means that the registration is lost. -/
theorem reregistration (run : Run (.ofInstance self store retryDelay) (later ++ u :: earlier) s)
    (takes : u.Takes g) (current : u.before.timer.isCurrent g = true)
    (under : ∀ y ∈ later, y.before.stage.handled = 1) : Reregistration u later s := by
  obtain ⟨begins, -, handling⟩ := run.handling_of_takes takes current under
  have answered {m : Moment} {ending : Ending} (mem : m ∈ later)
      (answer : m.happening = .event (.answer (.update (.ofExchange (received ending))))) :=
    handling.of_answered (mem_answersIn mem answer)
  constructor
  case begins => exact begins
  case waits =>
    intro unanswered
    exact (handling.of_unanswered unanswered).2
  case registers_iff =>
    rw [begins, List.forall_mem_singleton]
    intro m mem ending answer
    rw [← losesRegistration_iff]
    rcases answered mem answer with ⟨lost, registers⟩ | ⟨keeps, silent, -, -⟩
    · exact iff_of_true registers lost
    · exact iff_of_false (by simp [silent]) (by simp [keeps])
  case kept =>
    rw [begins, List.forall_mem_singleton]
    intro m mem ending answer keeps
    rw [← losesRegistration_iff] at keeps
    exact ((answered mem answer).resolve_left fun lost => keeps lost.1).2
  case takes =>
    intro unanswered
    rw [begins, List.forall_mem_singleton]
    intro ending
    apply System.takes_answer
    rw [(handling.of_unanswered unanswered).1]
    rfl
  case ends =>
    intro k _ peer
    exact k.exists_ending peer

/-- A refusal with the status 403 whose details give the status 404. -/
def misdirected : Ending :=
  .ok ⟨403, [],
    [0x7B, 0x22, 0x73, 0x74, 0x61, 0x74, 0x75, 0x73, 0x22, 0x3A, 0x34, 0x30, 0x34, 0x7D]⟩

theorem reregistration_misdirected :
    ∃ u earlier later s p, servingOne.play heartbeatUnderWay = some (u :: earlier, u.after) ∧
      u.Takes 1 ∧ u.before.timer.isCurrent 1 = true ∧
      u.after.play [.event (.answer (.update (.ofExchange (received misdirected))))] =
        some (later, s) ∧
      (∀ y ∈ later, y.before.stage.handled = 1) ∧
      callsIn later = [.register ⟨"http://nrf:8000", "nf-1"⟩ p] ∧ Reregistration u later s := by
  have lost : UpdateOutcome.ofExchange (received misdirected) =
      .rejected ⟨none, none, some 404, none, none⟩ := by decide +kernel
  rw [lost]
  obtain ⟨u, earlier, later, s, p, before, takes, current, behind, under, calls⟩ :
      ∃ u earlier later s p, servingOne.play heartbeatUnderWay = some (u :: earlier, u.after) ∧
        u.Takes 1 ∧ u.before.timer.isCurrent 1 = true ∧
        u.after.play [.event (.answer (.update (.rejected ⟨none, none, some 404, none, none⟩)))] =
          some (later, s) ∧
        (∀ y ∈ later, y.before.stage.handled = 1) ∧
        callsIn later = [.register ⟨"http://nrf:8000", "nf-1"⟩ p] :=
    ⟨_, _, _, _, _, rfl, rfl, rfl, rfl, by simp [Stage.handled], rfl⟩
  have run := (Run.of_play _ before).append (.of_play _ behind)
  exact ⟨u, earlier, later, s, p, before, takes, current, behind, under, calls,
    reregistration run takes current under⟩

end SliceSelection.Lifecycle
