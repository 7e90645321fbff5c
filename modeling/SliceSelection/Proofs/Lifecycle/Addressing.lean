import SliceSelection.Proofs.Lifecycle.Calling
import SliceSelection.Proofs.Lifecycle.Keepalive

/-!
# Whom the calls address, and what they carry

The registry may give the instance another identity whenever it makes a new record. Every call that
begins behind that uses it, the deregistration included, and every registration carries it together
with the networks in the store at that time. No call begins while another is under way.
-/

namespace SliceSelection

/-- The member of an object under a key, if it has one. -/
def Json.member? (key : String) : Json → Option Json
  | .object members => members.lookup (some key)
  | _ => none

lemma Json.member?_record {key : String} {members : List (String × Option Json)} :
    (record members).member? key = members.findSome? fun m => if m.1 = key then m.2 else none := by
  unfold record member?
  simp only
  induction members with
  | nil => rfl
  | cons m members ih =>
    obtain ⟨name, value⟩ := m
    cases value with
    | none => simpa using ih
    | some value =>
      by_cases same : name = key
      · simp [same]
      · have other : (key == name) = false := beq_false_of_ne (Ne.symm same)
        simp [same, List.lookup_cons, other, ih]

lemma Registry.Profile.member_instanceId (p : Profile) :
    p.toJson.member? "nfInstanceId" = some (.ofString p.instanceId) := by
  simp [toJson, Json.member?_record]

lemma Registry.Profile.member_plmnList (p : Profile) :
    p.toJson.member? "plmnList" = p.plmns.map (.ofList PlmnId.toJson) := by
  cases plmns : p.plmns <;> simp [toJson, Json.member?_record, plmns]

namespace Lifecycle

open Registry

/-- Whom a call addresses: the base address of the registry and the instance there. -/
def Call.identity : Call → Identity
  | register i _ => i
  | update i _ => i
  | deregister i => i

/-- The identity that the registry gives in an answer, if it made a new record. -/
def Happening.created? : Happening → Option Identity
  | event (.answer (.register (.created _ i))) => some i
  | _ => none

/-- The identity given last in a history, or the one of the start if none was given. -/
def identityIn (start : Identity) (history : List Moment) : Identity :=
  (history.filterMap (·.happening.created?)).headD start

/-- An attempt to register is accepted. -/
def Moment.Accepts (m : Moment) : Prop :=
  ∃ o, m.happening = .event (.answer (.register o)) ∧ o.isAccepted = true

/-- The body of a registration under an identity where the store holds some networks: they are left
out if and only if there are none. -/
structure Carries (p : Profile) (i : Identity) (networks : List PlmnId) : Prop where
  instanceId : p.instanceId = i.instanceId
  identified : p.toJson.member? "nfInstanceId" = some (.ofString i.instanceId)
  plmns : p.plmns = if networks = [] then none else some networks
  listed : p.toJson.member? "plmnList" =
    if networks = [] then none else some (.ofList PlmnId.toJson networks)

namespace Coordinator

variable {c c' : Coordinator} {e : Event} {calls : List Call}

/-- The timer was never armed: nothing sleeps, was posted or is being handled, and the instance is
not held to be registered. -/
structure IsUnarmed (c : Coordinator) : Prop where
  due : c.timer.due = none
  posted : c.timer.posted = []
  handled : c.stage.handled = 0
  state : c.self.state ≠ .registered

lemma carries_announcement : Carries c.announcement c.self.identity c.board.store.plmns := by
  have plmns : c.announcement.plmns =
      if c.board.store.plmns = [] then none else some c.board.store.plmns := by
    simp [announcement, Instance.profile]
  refine ⟨rfl, Profile.member_instanceId _, plmns, ?_⟩
  rw [Profile.member_plmnList, plmns]
  split <;> rfl

namespace Rule

lemma length_calls (rule : Rule c e c' calls) : calls.length ≤ 1 := by
  cases rule <;> simp

lemma identity_calls (rule : Rule c e c' calls) {k : Call} (begins : k ∈ calls) :
    k.identity = c.self.identity := by
  cases rule with
  | boot | retry | hear | beat | lost | deregister =>
    cases List.mem_singleton.mp begins
    rfl
  | _ => cases begins

lemma identity (rule : Rule c e c' calls) :
    c'.self.identity = (Happening.event e).created?.getD c.self.identity := by
  cases rule with
  | @accepted _ _ o => cases o <;> rfl
  | _ => rfl

lemma carries (rule : Rule c e c' calls) {i : Identity} {p : Profile}
    (begins : .register i p ∈ calls) : Carries p i c.board.store.plmns := by
  cases rule with
  | boot | retry | hear | lost =>
    cases List.mem_singleton.mp begins
    exact carries_announcement
  | _ => simp at begins

lemma first (rule : Rule c e c' calls) (stage : c.stage = .starting) :
    calls = [] ∧ c'.stage = .starting ∨ ∃ i p, calls = [.register i p] := by
  cases rule with
  | boot => exact .inr ⟨_, _, rfl⟩
  | board | cancel | elapse | approach => exact .inl ⟨rfl, stage⟩
  | giveUp other | stop other | hear other | disregard other | deafen other | beat other
  | ignore other | retry other | accepted other | refusedBoot other | refusedChange other
  | refusedAgain other | kept other | lost other | deregister other | deregistered other =>
    exact absurd (stage.symm.trans other) (by simp)

lemma unarmed (rule : Rule c e c' calls) (idle : c.IsUnarmed) :
    c'.IsUnarmed ∨ ∃ o, e = .answer (.register o) ∧ o.isAccepted = true := by
  -- Every other rule that arms the timer follows a heartbeat, which takes an expiry.
  obtain ⟨due, posted, handled, state⟩ := idle
  cases rule with
  | accepted _ outcome => exact .inr ⟨_, rfl, outcome⟩
  | board | cancel | approach | disregard | deafen => exact .inl ⟨due, posted, handled, state⟩
  | @elapse k _ =>
    have awake : c.timer.elapse (c.now + k) = c.timer := Heartbeat.elapse_of_none due
    exact .inl ⟨awake.symm ▸ due, awake.symm ▸ posted, handled, state⟩
  | boot | retry | hear | refusedBoot | refusedChange | deregister | deregistered =>
    exact .inl ⟨due, posted, rfl, nofun⟩
  | giveUp => exact .inl ⟨due, posted, rfl, state⟩
  | stop => exact .inl ⟨rfl, posted, rfl, state⟩
  | beat _ _ _ some | ignore _ _ _ some => exact absurd (posted.symm.trans some) (by simp)
  | refusedAgain stage | kept stage | lost stage => simp [stage, Stage.handled] at handled

end Rule

end Coordinator

variable {s s' s₀ : System} {h : Happening} {calls : List Call} {k k' : Call}
  {newer between older history : List Moment} {x y u : Moment} {self : Instance}
  {store : SliceConfig} {retryDelay : Nat}

lemma unarmed_ofInstance : (System.ofInstance self store retryDelay).IsUnarmed :=
  ⟨rfl, rfl, rfl, nofun⟩

lemma Change.identity (change : Change s h s' calls) :
    s'.self.identity = h.created?.getD s.self.identity := by
  cases change with
  | event _ rule => exact rule.identity
  | repeated | moved | published | close => rfl

namespace Run

lemma identity (run : Run s₀ history s) :
    s.self.identity = identityIn s₀.self.identity history := by
  induction run with
  | start => rfl
  | @next _ _ _ h _ _ step ih =>
    rw [(Change.of_step step).identity, ih, identityIn, identityIn, List.filterMap_cons]
    cases h.created? <;> rfl

/-- Until the first call begins, the first attempt is still to be made. -/
lemma starting_of_silent (run : Run s₀ history s) (start : s₀.stage = .starting)
    (silent : callsIn history = []) : s.stage = .starting := by
  induction run with
  | start => exact start
  | next run step ih =>
    obtain ⟨e, rule⟩ := (Change.of_step step).rule
    rw [callsIn_cons, List.append_eq_nil_iff] at silent
    rcases rule.first (ih silent.2) with ⟨-, stage⟩ | ⟨i, p, begins⟩
    · exact stage
    · rw [begins] at silent
      cases silent.1

lemma unarmed (run : Run s₀ history s) (start : s₀.IsUnarmed) :
    s.IsUnarmed ∨ ∃ z ∈ history, z.Accepts := by
  induction run with
  | start => exact .inl start
  | @next history s s' h calls run step ih =>
    rcases ih with idle | ⟨z, mem, accepts⟩
    · have change := Change.of_step step
      cases change with
      | event _ rule =>
        refine (rule.unarmed idle).imp_right ?_
        rintro ⟨o, rfl, outcome⟩
        exact ⟨_, List.mem_cons_self, o, rfl, outcome⟩
      | repeated | moved | published | close =>
        exact .inl ⟨idle.due, idle.posted, idle.handled, idle.state⟩
    · exact .inr ⟨z, List.mem_cons_of_mem _ mem, accepts⟩

lemma accepted_of_updates (run : Run s₀ (newer ++ u :: older) s) (start : s₀.IsUnarmed)
    (updates : u.Updates) : ∃ z ∈ older, z.Accepts := by
  obtain ⟨before, change, -⟩ := run.at_moment
  obtain ⟨e, rule⟩ := change.rule
  obtain ⟨i, patch, begins⟩ := updates
  refine (before.unarmed start).resolve_left fun idle => ?_
  exact absurd (idle.posted.symm.trans (rule.updates begins).2) (by simp)

/-- When a call begins, every call before was answered. -/
lemma serial (run : Run s₀ (newer ++ y :: (between ++ x :: older)) s) (first : k ∈ x.calls)
    (second : k' ∈ y.calls) : Answered k (y :: between) := by
  obtain ⟨before, change, -⟩ := run.at_moment
  obtain ⟨-, begun, behind⟩ := before.at_moment
  obtain ⟨_, begun⟩ := begun.rule
  obtain ⟨e, event, rule⟩ := change.rule_of_calls second
  rcases behind.answered (begun.awaits first) with answered | ⟨waits, quiet⟩
  · obtain ⟨after, z, during, a, rfl, quiet, answer, answers⟩ := answered
    exact ⟨y :: after, z, during, a, rfl, quiet, answer, answers⟩
  · -- The call is still under way, so what happens is its answer.
    obtain ⟨a, answers⟩ := k.exists_answer
    rcases rule.waits ((waits a).trans answers) with ⟨-, silent⟩ | ⟨b, rfl, answered⟩
    · rw [silent] at second
      cases second
    · exact ⟨[], y, between, b, rfl, quiet, event, (waits b).symm.trans answered⟩

end Run

/-- How the registry is called in a run of an instance that has one identity at the start. -/
structure Addressing (start : Identity) (history : List Moment) (s : System) : Prop where
  /-- A call begins only when the one before was answered; the answer may come at the same moment,
  when it is what the call stands for. -/
  serial : ∀ newer y between x older k k', history = newer ++ y :: (between ++ x :: older) →
    k ∈ x.calls → k' ∈ y.calls → Answered k (y :: between)
  single : ∀ x ∈ history, x.calls.length ≤ 1
  first : ∀ newer x older k, history = newer ++ x :: older → k ∈ x.calls →
    callsIn older = [] → ∃ i p, k = .register i p
  /-- No heartbeat begins before an attempt was accepted. -/
  accepted : ∀ newer u older, history = newer ++ u :: older → u.Updates → ∃ z ∈ older, z.Accepts
  /-- Every call addresses the identity that was given last. -/
  addressed : ∀ newer x older k, history = newer ++ x :: older → k ∈ x.calls →
    k.identity = identityIn start older
  identity : s.self.identity = identityIn start history
  /-- No outcome but a new record changes the identity. -/
  unmoved : ∀ x ∈ history, x.happening.created? = none →
    x.after.self.identity = x.before.self.identity
  /-- Every registration carries its identity and the networks in the store when it begins. -/
  carries : ∀ x ∈ history, ∀ i p, .register i p ∈ x.calls →
    Carries p i x.before.board.store.plmns

/-- The registry is called about one thing at a time and always under the newest identity. -/
theorem addressing (run : Run (.ofInstance self store retryDelay) history s) :
    Addressing self.identity history s := by
  constructor
  case serial =>
    rintro newer y between x older k k' rfl first second
    exact run.serial first second
  case single =>
    intro x mem
    obtain ⟨e, rule⟩ := (run.change mem).rule
    exact rule.length_calls
  case first =>
    rintro newer x older k rfl begins silent
    obtain ⟨before, change, -⟩ := run.at_moment
    obtain ⟨e, rule⟩ := change.rule
    rcases rule.first (before.starting_of_silent rfl silent) with ⟨none, -⟩ | ⟨i, p, calls⟩
    · rw [none] at begins
      cases begins
    · rw [calls] at begins
      exact ⟨i, p, List.mem_singleton.mp begins⟩
  case accepted =>
    rintro newer u older rfl updates
    exact run.accepted_of_updates unarmed_ofInstance updates
  case addressed =>
    rintro newer x older k rfl begins
    obtain ⟨before, change, -⟩ := run.at_moment
    obtain ⟨e, rule⟩ := change.rule
    exact (rule.identity_calls begins).trans before.identity
  case identity => exact run.identity
  case unmoved =>
    intro x mem none
    rw [(run.change mem).identity, none, Option.getD_none]
  case carries =>
    intro x mem i p begins
    obtain ⟨e, rule⟩ := (run.change mem).rule
    exact rule.carries begins

/-- The first attempt and a heartbeat fail, and both times the next attempt makes a new record, the
second time when shutdown has begun: the deregistration goes to the newest. -/
def movedTwice : List Happening :=
  [.event (.answer (.deregister .success)), .event .deregister, .event .act,
    .event (.answer (.register (.created none ⟨"http://nrf-3:8000", "nf-3"⟩))), .event .cancel,
    .event (.answer (.update (.failed (.unexpectedStatus 503)))), .event .act,
    .event (.elapse 60000),
    .event (.answer (.register (.created none ⟨"http://nrf-2:8000", "nf-2"⟩))), .event .retry,
    .event (.elapse 2000),
    .event (.answer (.register (.failed (.unexpectedStatus 503)))), .event .act]

theorem addressing_movedTwice :
    ∃ history s, servingOne.play movedTwice = some (history, s) ∧ s.stage = .ended ∧
      (callsIn history).map Call.identity =
        [⟨"http://nrf-3:8000", "nf-3"⟩, ⟨"http://nrf-2:8000", "nf-2"⟩,
          ⟨"http://nrf-2:8000", "nf-2"⟩, ⟨"http://nrf:8000", "nf-1"⟩,
          ⟨"http://nrf:8000", "nf-1"⟩] ∧
      Addressing ⟨"http://nrf:8000", "nf-1"⟩ history s := by
  obtain ⟨history, s, played, ended, addressed⟩ :
      ∃ history s, servingOne.play movedTwice = some (history, s) ∧ s.stage = .ended ∧
        (callsIn history).map Call.identity =
          [⟨"http://nrf-3:8000", "nf-3"⟩, ⟨"http://nrf-2:8000", "nf-2"⟩,
            ⟨"http://nrf-2:8000", "nf-2"⟩, ⟨"http://nrf:8000", "nf-1"⟩,
            ⟨"http://nrf:8000", "nf-1"⟩] :=
    ⟨_, _, rfl, rfl, rfl⟩
  exact ⟨history, s, played, ended, addressed, addressing (.of_play _ played)⟩

end Lifecycle

end SliceSelection
