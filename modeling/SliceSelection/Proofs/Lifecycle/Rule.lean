import Mathlib.Tactic.Common
import SliceSelection.Lifecycle.Coordinator

/-!
# The rules of the coordinator

An event that is enabled acts on the coordinator by one of the rules below, and a rule says all
that changes. What holds of the coordinator at all times is shown rule by rule.
-/

namespace SliceSelection.Registry

/-- Whether the registry took the registration. -/
def RegisterOutcome.isAccepted : RegisterOutcome → Bool
  | created _ _ => true
  | updated _ => true
  | failed _ => false

/-- The identity behind a registration that was begun under one. -/
def RegisterOutcome.identity (o : RegisterOutcome) (i : Identity) : Identity :=
  match o with
  | created _ j => j
  | updated _ => i
  | failed _ => i

/-- Whether a heartbeat with this outcome is answered by registering. -/
def UpdateOutcome.losesRegistration : UpdateOutcome → Bool
  | success _ => false
  | rejected problem => ProblemDetails.losesRegistration problem.status
  | failed _ => true

/-- The profile that the registry echoed. -/
def UpdateOutcome.profile : UpdateOutcome → Option Profile
  | success p => p
  | rejected _ => none
  | failed _ => none

end SliceSelection.Registry

namespace SliceSelection.Lifecycle

open Registry

namespace Coordinator

/-- The profile that a registration would carry now. -/
def announcement (c : Coordinator) : Profile :=
  (c.self.withState .registering).profile c.board.store.plmns

/-- The board when the announced networks are taken. -/
def readBoard (c : Coordinator) : Board :=
  { c.board with channel := c.board.channel.markRead }

/-- There is neither news nor the end of the channel to be taken. -/
def IsQuiet (c : Coordinator) : Prop :=
  c.hearing = true → c.board.channel.unread = false ∧ c.board.channel.closed = false

/-- The rules of the coordinator. -/
inductive Rule : Coordinator → Event → Coordinator → List Call → Prop where
  | board {c : Coordinator} {b : Board} : Rule c (.board b) { c with board := b } []
  | cancel {c : Coordinator} : Rule c .cancel { c with cancelled := true } []
  | elapse {c : Coordinator} {k : Nat} (may : c.mayPass k) :
      Rule c (.elapse k) { c with now := c.now + k, timer := c.timer.elapse (c.now + k) } []
  | approach {c : Coordinator} {k : Nat} (may : c.mayPass k) :
      Rule c (.approach k) { c with now := c.now + k } []
  | boot {c : Coordinator} (stage : c.stage = .starting) :
      Rule c .act
        { c with
          self := c.self.withState .registering
          stage := .registering .boot c.announcement }
        [.register c.self.identity c.announcement]
  | retry {c : Coordinator} {due : Nat} (stage : c.stage = .retrying due) (come : due ≤ c.now) :
      Rule c .retry
        { c with
          self := c.self.withState .registering
          stage := .registering .boot c.announcement }
        [.register c.self.identity c.announcement]
  | giveUp {c : Coordinator} {due : Nat} (stage : c.stage = .retrying due)
      (cancelled : c.cancelled = true) : Rule c .act { c with stage := .listening } []
  | stop {c : Coordinator} (stage : c.stage = .listening) (cancelled : c.cancelled = true) :
      Rule c .act { c with stage := .stopped, timer := c.timer.stop } []
  | hear {c : Coordinator} (stage : c.stage = .listening) (going : c.cancelled = false)
      (hearing : c.hearing = true) (unread : c.board.channel.unread = true)
      (state : c.self.state.isFinal = false) :
      Rule c .act
        { c with
          self := c.self.withState .registering
          board := c.readBoard
          stage := .registering .plmnChange c.announcement }
        [.register c.self.identity c.announcement]
  | disregard {c : Coordinator} (stage : c.stage = .listening) (going : c.cancelled = false)
      (hearing : c.hearing = true) (unread : c.board.channel.unread = true)
      (state : c.self.state.isFinal = true) : Rule c .act { c with board := c.readBoard } []
  | deafen {c : Coordinator} (stage : c.stage = .listening) (going : c.cancelled = false)
      (hearing : c.hearing = true) (read : c.board.channel.unread = false)
      (closed : c.board.channel.closed = true) : Rule c .act { c with hearing := false } []
  | beat {c : Coordinator} {g : Nat} {gs : List Nat} (stage : c.stage = .listening)
      (going : c.cancelled = false) (quiet : c.IsQuiet) (posted : c.timer.posted = g :: gs)
      (current : c.timer.isCurrent g = true) (state : c.self.state.isFinal = false) :
      Rule c .act
        { c with
          self := c.self.withState .updating
          timer := { c.timer with posted := gs }
          stage := .updating }
        [.update c.self.identity heartbeatPatch]
  | ignore {c : Coordinator} {g : Nat} {gs : List Nat} (stage : c.stage = .listening)
      (going : c.cancelled = false) (quiet : c.IsQuiet) (posted : c.timer.posted = g :: gs)
      (idle : c.timer.isCurrent g = false ∨ c.self.state.isFinal = true) :
      Rule c .act { c with timer := { c.timer with posted := gs } } []
  | accepted {c : Coordinator} {t : Trigger} {sent : Profile} {o : RegisterOutcome}
      (stage : c.stage = .registering t sent) (outcome : o.isAccepted = true) :
      Rule c (.answer (.register o))
        { c with
          self := { c.self with identity := o.identity c.self.identity, state := .registered }
          timer := c.timer.start c.now
            ((o.profile.bind (·.heartbeatInterval)).or sent.heartbeatInterval)
          board := if t = .boot then c.readBoard else c.board
          stage := .listening } []
  | refusedBoot {c : Coordinator} {sent : Profile} {f : Failure}
      (stage : c.stage = .registering .boot sent) :
      Rule c (.answer (.register (.failed f)))
        { c with
          self := c.self.withState .unregistered
          stage := .retrying (c.now + c.retryDelay) } []
  | refusedChange {c : Coordinator} {sent : Profile} {f : Failure}
      (stage : c.stage = .registering .plmnChange sent) :
      Rule c (.answer (.register (.failed f)))
        { c with self := c.self.withState .unregistered, stage := .listening } []
  | refusedAgain {c : Coordinator} {sent : Profile} {f : Failure}
      (stage : c.stage = .registering .lostHeartbeat sent) :
      Rule c (.answer (.register (.failed f)))
        { c with
          self := c.self.withState .unregistered
          timer := c.timer.refresh c.now none
          stage := .listening } []
  | kept {c : Coordinator} {o : UpdateOutcome} (stage : c.stage = .updating)
      (outcome : o.losesRegistration = false) :
      Rule c (.answer (.update o))
        { c with
          self := c.self.withState .registered
          timer := c.timer.refresh c.now (o.profile.bind (·.heartbeatInterval))
          stage := .listening } []
  | lost {c : Coordinator} {o : UpdateOutcome} (stage : c.stage = .updating)
      (outcome : o.losesRegistration = true) :
      Rule c (.answer (.update o))
        { c with
          self := c.self.withState .registering
          stage := .registering .lostHeartbeat c.announcement }
        [.register c.self.identity c.announcement]
  | deregister {c : Coordinator} (stage : c.stage = .stopped) :
      Rule c .deregister
        { c with self := c.self.withState .deregistering, stage := .deregistering }
        [.deregister c.self.identity]
  | deregistered {c : Coordinator} {o : DeregisterOutcome} (stage : c.stage = .deregistering) :
      Rule c (.answer (.deregister o))
        { c with self := c.self.withState .stopped, stage := .ended } []

namespace Rule

variable {c c' : Coordinator} {calls : List Call}

/-- Listening acts by a rule. -/
lemma of_listen (stage : c.stage = .listening) (h : c.listen = some (c', calls)) :
    Rule c .act c' calls := by
  unfold listen at h
  split at h
  · next cancelled =>
    cases h
    exact .stop stage cancelled
  · next going =>
    have going : c.cancelled = false := by simpa using going
    split at h
    · next news =>
      obtain ⟨hearing, unread⟩ : c.hearing = true ∧ c.board.channel.unread = true := by
        simpa using news
      cases final : c.self.state.isFinal <;> simp [handle, final] at h <;>
        obtain ⟨rfl, rfl⟩ := h
      · exact .hear stage going hearing unread final
      · exact .disregard stage going hearing unread final
    · next news =>
      split at h
      · next ended =>
        cases h
        simp only [Bool.and_eq_true] at news ended
        exact .deafen stage going ended.1 (by simpa [ended.1] using news) ended.2
      · next ended =>
        have quiet : c.IsQuiet := fun hearing =>
          ⟨by simpa [hearing] using news, by simpa [hearing] using ended⟩
        cases posted : c.timer.posted with
        | nil => simp [Heartbeat.take, posted] at h
        | cons g gs =>
          simp only [Heartbeat.take, posted, Option.map_some, Option.some.injEq, handle] at h
          split at h
          · next idle =>
            cases h
            simp only [Bool.or_eq_true, Bool.not_eq_true'] at idle
            exact .ignore stage going quiet posted idle
          · next busy =>
            cases h
            simp only [Bool.or_eq_true, Bool.not_eq_true', not_or, Bool.not_eq_false,
              Bool.not_eq_true] at busy
            exact .beat stage going quiet posted busy.1 busy.2

/-- An answer acts by a rule. -/
lemma of_answer {a : Answer} (h : c.answer a = some (c', calls)) :
    Rule c (.answer a) c' calls := by
  unfold Coordinator.answer at h
  split at h
  · next t sent o stage =>
    cases h
    cases o with
    | created p i => exact .accepted (o := .created p i) stage rfl
    | updated p => exact .accepted (o := .updated p) stage rfl
    | failed f =>
      cases t with
      | boot => exact .refusedBoot stage
      | plmnChange => exact .refusedChange stage
      | lostHeartbeat => exact .refusedAgain stage
  · next o stage =>
    cases o with
    | success p =>
      cases h
      exact .kept (o := .success p) stage rfl
    | failed f =>
      cases h
      exact .lost (o := .failed f) stage rfl
    | rejected problem =>
      simp only [updated] at h
      split at h
      · next loses =>
        cases h
        exact .lost (o := .rejected problem) stage loses
      · next keeps =>
        cases h
        exact .kept (o := .rejected problem) stage (eq_false_of_ne_true keeps)
  · next stage =>
    cases h
    exact .deregistered stage
  · cases h

/-- Whatever an enabled event does, it does by a rule. -/
theorem of_step {e : Event} (h : c.step e = some (c', calls)) : Rule c e c' calls := by
  cases e with
  | board b =>
    cases h
    exact .board
  | cancel =>
    cases h
    exact .cancel
  | elapse k =>
    simp only [step, Coordinator.elapse, Option.ite_none_right_eq_some] at h
    obtain ⟨may, h⟩ := h
    cases h
    exact .elapse may
  | approach k =>
    simp only [step, Coordinator.approach, Option.ite_none_right_eq_some] at h
    obtain ⟨may, h⟩ := h
    cases h
    exact .approach may
  | act =>
    simp only [step, act] at h
    split at h
    · next stage =>
      cases h
      exact .boot stage
    · next due stage =>
      simp only [Option.ite_none_right_eq_some] at h
      obtain ⟨cancelled, h⟩ := h
      cases h
      exact .giveUp stage cancelled
    · next stage => exact of_listen stage h
    · cases h
  | retry =>
    simp only [step, Coordinator.retry] at h
    split at h
    · next due stage =>
      simp only [Option.ite_none_right_eq_some] at h
      obtain ⟨come, h⟩ := h
      cases h
      exact .retry stage come
    · cases h
  | answer a => exact of_answer h
  | deregister =>
    simp only [step, Option.ite_none_right_eq_some] at h
    obtain ⟨stage, h⟩ := h
    cases h
    exact .deregister stage

end Rule

end Coordinator

end SliceSelection.Lifecycle
