import SliceSelection.Proofs.Lifecycle.Adoption
import SliceSelection.Proofs.Registry.Relocation

/-!
# How the registry gets out of reach

Over HTTP a call is refused before it is sent if the identity of the instance can not be asked for.
An identity that is adopted can be asked if the address of its record names a scheme and an
authority, but nothing makes sure that it does. Once one is adopted that can not, no call is sent
any more, so no registration is accepted that would bring another identity.
-/

namespace SliceSelection.Lifecycle

open Registry

/-! ### Calls -/

namespace Call

variable {k : Call} {peer : Http.Outgoing → Http.Reply} {o : RegisterOutcome}

/-- A call is refused for its address, whoever the peer is. -/
def IsRefused (k : Call) : Prop :=
  ∀ peer, ∃ fault, Http.send peer k.request = .error (.invalidUri k.request.uri fault)

lemma refused_iff (peer : Http.Outgoing → Http.Reply) :
    (∃ fault, Http.send peer k.request = .error (.invalidUri k.request.uri fault)) ↔
      ¬ k.identity.CanBeAsked := by
  rw [Http.send_refused_iff, uri_request, Identity.CanBeAsked]

/-- Nothing but the address keeps a call from being sent. -/
lemma exists_check (can : k.identity.CanBeAsked) : ∃ out, k.request.check = .ok out := by
  rw [Identity.CanBeAsked, ← uri_request] at can
  obtain ⟨u, address⟩ := Http.Request.address_of_canBeAsked can
  have headers (name value : String) :
      (Http.Headers.set ∅ name value).toList = [(Text.asciiLowercase name, value)] := rfl
  cases k with
  | register i p =>
    have method : Http.Method.ofText "PUT" = .ok .put := by decide
    refine ⟨_, Http.Request.check_eq address method ?_ ?_⟩
    · exact (congrArg (List.all · _) (headers _ Http.jsonType)).trans (by decide)
    · exact (congrArg (List.all · _) (headers _ Http.jsonType)).trans (by decide)
  | update i patch =>
    have method : Http.Method.ofText "PATCH" = .ok .patch := by decide
    refine ⟨_, Http.Request.check_eq address method ?_ ?_⟩
    · exact (congrArg (List.all · _) (headers _ Http.patchType)).trans (by decide)
    · exact (congrArg (List.all · _) (headers _ Http.patchType)).trans (by decide)
  | deregister i =>
    have method : Http.Method.ofText "DELETE" = .ok .delete := by decide
    exact ⟨_, Http.Request.check_eq address method rfl rfl⟩

lemma sent (can : k.identity.CanBeAsked) :
    ∃ out, ∀ peer, Http.send peer k.request = Http.Reply.toResponse (peer out) := by
  obtain ⟨out, checked⟩ := exists_check can
  refine ⟨out, fun peer => ?_⟩
  rw [Http.send, checked]
  rfl

lemma canBeAsked_of_accepted (sent : k.send peer = .register o) (accepted : o.isAccepted = true) :
    k.identity.CanBeAsked := by
  by_contra cannot
  obtain ⟨fault, refused⟩ := (refused_iff peer).mpr cannot
  rw [send, refused] at sent
  cases k <;> cases sent
  cases accepted

/-- A new record comes with a response that names its address. -/
lemma location_of_send {i : Identity}
    (created : (Happening.event (.answer (k.send peer))).created? = some i) :
    ∃ location, Identity.ofUri? location = some i := by
  unfold send at created
  cases received : Http.send peer k.request with
  | error e =>
    rw [received] at created
    cases k <;> cases created
  | ok r =>
    rw [received] at created
    obtain ⟨location, -, read⟩ := location_of_created created
    exact ⟨location, read⟩

end Call

/-! ### The call under way -/

namespace Coordinator.Rule

variable {c c' : Coordinator} {e : Event} {calls : List Call} {a : Answer}

/-- An answer is one to the call that is under way. -/
lemma isAnsweredBy (rule : Rule c (.answer a) c' calls) : c.stage.isAnsweredBy a = true := by
  cases rule with
  | accepted stage | refusedBoot stage | refusedChange stage | refusedAgain stage | kept stage
  | lost stage | deregistered stage => rw [stage]; rfl

/-- A call that is under way begins, or it was under way before. -/
lemma under (rule : Rule c e c' calls) (waits : c'.stage.isAnsweredBy a = true) :
    (∃ k, calls = [k] ∧ k.identity = c'.self.identity) ∨
      calls = [] ∧ c.stage.isAnsweredBy a = true ∧ c'.self.identity = c.self.identity := by
  cases rule with
  | board | cancel | elapse | approach | disregard | deafen | ignore =>
    exact .inr ⟨rfl, waits, rfl⟩
  | boot | retry | hear | beat | lost | deregister => exact .inl ⟨_, rfl, rfl⟩
  | giveUp | stop | accepted | refusedBoot | refusedChange | refusedAgain | kept
  | deregistered => cases a <;> cases waits

end Coordinator.Rule

variable {s s₀ : System} {history newer older : List Moment} {m : Moment} {i : Identity}
  {a : Answer} {self : Instance} {store : SliceConfig} {retryDelay : Nat}

lemma Change.isAnsweredBy {s' : System} {calls : List Call}
    (change : Change s (.event (.answer a)) s' calls) : s.stage.isAnsweredBy a = true := by
  cases change with
  | event _ rule => exact rule.isAnsweredBy

/-- Nothing is under way that could be answered. -/
def Stage.IsIdle (stage : Stage) : Prop := ∀ a, stage.isAnsweredBy a = false

namespace Run

/-- The call that is under way is the one that began last, and it uses the identity in force. -/
lemma under (run : Run s₀ history s) (idle : s₀.stage.IsIdle)
    (waits : s.stage.isAnsweredBy a = true) :
    ∃ k, (callsIn history).head? = some k ∧ k.identity = s.self.identity := by
  induction run with
  | start => exact absurd (waits.symm.trans (idle a)) (by simp)
  | next run step ih =>
    obtain ⟨e, rule⟩ := (Change.of_step step).rule
    rw [callsIn_cons]
    rcases rule.under waits with ⟨k, rfl, identity⟩ | ⟨rfl, before, same⟩
    · exact ⟨k, rfl, identity⟩
    · obtain ⟨k, last, identity⟩ := ih before
      exact ⟨k, last, identity.trans same.symm⟩

end Run

/-! ### Histories over HTTP -/

/-- Every answer of a history is that of an exchange with some peer, to which the call was sent that
began last. -/
inductive OverHttp : List Moment → Prop where
  | nil : OverHttp []
  | silent {m : Moment} {history : List Moment} (http : OverHttp history)
      (silent : ∀ a, m.happening ≠ .event (.answer a)) : OverHttp (m :: history)
  | answered {m : Moment} {history : List Moment} (http : OverHttp history) (k : Call)
      (peer : Http.Outgoing → Http.Reply) (last : (callsIn history).head? = some k)
      (answer : m.happening = .event (.answer (k.send peer))) : OverHttp (m :: history)

namespace OverHttp

lemma tail (http : OverHttp (m :: history)) : OverHttp history := by
  cases http with
  | silent http | answered http => exact http

lemma at_moment (http : OverHttp (newer ++ m :: older))
    (answer : m.happening = .event (.answer a)) :
    ∃ k peer, (callsIn older).head? = some k ∧ a = k.send peer := by
  induction newer with
  | nil =>
    cases http with
    | silent _ silent => exact absurd answer (silent a)
    | answered _ k peer last sent =>
      cases answer.symm.trans sent
      exact ⟨k, peer, last, rfl⟩
  | cons x newer ih => exact ih http.tail

lemma cons_silent {h : Happening} {s' : System} {calls : List Call} (http : OverHttp history)
    (silent : ∀ a, h ≠ .event (.answer a)) : OverHttp (⟨s, h, calls, s'⟩ :: history) :=
  .silent http silent

lemma cons_answered {s' : System} {calls : List Call} {k : Call} (peer : Http.Outgoing → Http.Reply)
    (http : OverHttp history) (last : (callsIn history).head? = some k) (sent : k.send peer = a) :
    OverHttp (⟨s, .event (.answer a), calls, s'⟩ :: history) :=
  .answered http k peer last (by rw [sent])

/-- The part of a history behind a point at which nothing is under way is one over HTTP, too. -/
lemma later (http : OverHttp (newer ++ older)) (run : Run s₀ newer s) (idle : s₀.stage.IsIdle) :
    OverHttp newer := by
  induction run with
  | start => exact .nil
  | @next newer s _ _ _ run step ih =>
    cases http with
    | silent http silent => exact .silent (ih http) silent
    | answered http k peer last answer =>
      cases answer
      -- Nothing was under way at the point, so the call that is answered began behind it.
      obtain ⟨k', last', -⟩ := run.under idle (Change.of_step step).isAnsweredBy
      have calls : callsIn (newer ++ older) = callsIn newer ++ callsIn older :=
        List.flatMap_append
      have last : (callsIn (newer ++ older)).head? = some k := last
      rw [calls, List.head?_append, last'] at last
      cases last
      exact .answered (ih http) k peer last' rfl

end OverHttp

/-- The exchange whose outcome a moment takes. -/
lemma OverHttp.exchange (http : OverHttp (newer ++ m :: older)) (run : Run s₀ older m.before)
    (idle : s₀.stage.IsIdle) (change : Change m.before m.happening m.after m.calls)
    (answer : m.happening = .event (.answer a)) :
    ∃ (k : Call) (peer : _), k.identity = m.before.self.identity ∧ a = k.send peer := by
  obtain ⟨k, peer, last, sent⟩ := http.at_moment answer
  rw [answer] at change
  obtain ⟨k', last', identity⟩ := run.under idle change.isAnsweredBy
  cases last'.symm.trans last
  exact ⟨k, peer, identity, sent⟩

/-- An attempt is accepted only under an identity that can be asked for. -/
lemma OverHttp.canBeAsked_of_accepts (http : OverHttp (newer ++ m :: older))
    (run : Run s₀ older m.before) (idle : s₀.stage.IsIdle)
    (change : Change m.before m.happening m.after m.calls) (accepts : m.Accepts) :
    m.before.self.identity.CanBeAsked := by
  obtain ⟨o, answer, accepted⟩ := accepts
  obtain ⟨k, peer, identity, sent⟩ := http.exchange run idle change answer
  rw [← identity]
  exact Call.canBeAsked_of_accepted sent.symm accepted

lemma Happening.accepts_of_created {h : Happening} (created : h.created? = some i) :
    ∃ o, h = .event (.answer (.register o)) ∧ o.isAccepted = true := by
  unfold created? at created
  split at created
  · cases created
    exact ⟨_, rfl, rfl⟩
  · cases created

/-- Behind a new record the coordinator listens again. -/
lemma Change.isIdle_of_created {s' : System} {h : Happening} {calls : List Call}
    (change : Change s h s' calls) (created : h.created? = some i) : s'.stage.IsIdle := by
  obtain ⟨o, rfl, -⟩ := Happening.accepts_of_created created
  cases change with
  | event _ rule =>
    cases rule with
    | accepted => exact fun a => by cases a <;> rfl
    | refusedBoot | refusedChange | refusedAgain => cases created

namespace Run

/-- Once the identity can not be asked for, it stays as it is. -/
lemma stuck (run : Run s₀ history s) (idle : s₀.stage.IsIdle) (http : OverHttp history)
    (cannot : ¬ s₀.self.identity.CanBeAsked) :
    s.self.identity = s₀.self.identity ∧ (∀ k ∈ callsIn history, k.identity = s₀.self.identity) ∧
      ∀ x ∈ history, ¬ x.Accepts := by
  induction run with
  | start => exact ⟨rfl, nofun, List.forall_mem_nil _⟩
  | @next history s s' h calls run step ih =>
    obtain ⟨identity, addressed, refused⟩ := ih http.tail
    have change := Change.of_step step
    obtain ⟨e, rule⟩ := change.rule
    have http : OverHttp ([] ++ ⟨s, h, calls, s'⟩ :: history) := http
    -- An attempt that is accepted was sent, which it can not be under that identity.
    have refuses : ¬ Moment.Accepts ⟨s, h, calls, s'⟩ := by
      intro accepts
      have can := http.canBeAsked_of_accepts run idle change accepts
      rw [identity] at can
      exact cannot can
    refine ⟨?_, ?_, List.forall_mem_cons.mpr ⟨refuses, refused⟩⟩
    · rw [change.identity, identity]
      cases created : h.created? with
      | none => rfl
      | some i => exact absurd (Happening.accepts_of_created created) refuses
    · intro k mem
      rw [callsIn_cons, List.mem_append] at mem
      rcases mem with begins | began
      · exact (rule.identity_calls begins).trans identity
      · exact addressed k began

end Run

/-- What is known of an identity that was read from the address of a new record. -/
structure Relocation (location : String) (i : Identity) : Prop where
  read : Identity.ofUri? location = some i
  canBeAsked_iff : i.CanBeAsked ↔ (Http.Uri.origin? location.toList).isSome ∧
    Http.Uri.HasPath i.uri ∧ i.uri.utf8ByteSize ≤ Http.Uri.maxBytes
  /-- A record that is named by a path alone gives an identity that nobody can be asked for. -/
  byPath : location.toList.head? = some '/' → ¬ i.CanBeAsked
  /-- An address that can be asked itself, without a query and a fragment, gives one that can. -/
  plain : Http.Uri.CanBeAsked location → '?' ∉ location.toList → '#' ∉ location.toList →
    i.uri.utf8ByteSize ≤ Http.Uri.maxBytes → i.CanBeAsked

/-- Whether the registry can be reached in a run over HTTP of an instance that has one identity at
the start. -/
structure Reachability (start : Identity) (history : List Moment) (s : System) : Prop where
  /-- A call is refused for its address if and only if the identity in force can not be asked. -/
  refused_iff : ∀ newer m older k, history = newer ++ m :: older → k ∈ m.calls →
    (k.IsRefused ↔ ¬ (identityIn start older).CanBeAsked)
  sent : ∀ newer m older k, history = newer ++ m :: older → k ∈ m.calls →
    (identityIn start older).CanBeAsked →
      ∃ out, ∀ peer, Http.send peer k.request = Http.Reply.toResponse (peer out)
  /-- A new record is made under an identity that can be asked, and nothing but its address tells
  whether the next one can. -/
  adopted : ∀ newer m older i, history = newer ++ m :: older → m.happening.created? = some i →
    (identityIn start older).CanBeAsked ∧ ∃ location, Relocation location i
  /-- No call is refused while every identity that was adopted can be asked. -/
  kept : start.CanBeAsked → (∀ m ∈ history, ∀ i, m.happening.created? = some i → i.CanBeAsked) →
    ∀ k ∈ callsIn history, ¬ k.IsRefused
  /-- An identity that can not be asked is never replaced: all calls behind its adoption are
  refused, and no attempt is accepted. -/
  lost : ∀ newer m older i, history = newer ++ m :: older → m.happening.created? = some i →
    ¬ i.CanBeAsked → s.self.identity = i ∧ (∀ k ∈ callsIn newer, k.IsRefused) ∧
      ∀ x ∈ newer, ¬ x.Accepts

lemma Call.isRefused_iff {k : Call} : k.IsRefused ↔ ¬ k.identity.CanBeAsked :=
  ⟨fun refused => (refused_iff fun _ => .silent).mp (refused _),
    fun cannot peer => (refused_iff peer).mpr cannot⟩

lemma relocation {location : String} (read : Identity.ofUri? location = some i) :
    Relocation location i := by
  constructor
  case read => exact read
  case canBeAsked_iff => exact Identity.canBeAsked_iff read
  case byPath => exact Identity.not_canBeAsked_of_slash read
  case plain => exact Identity.canBeAsked_of_location read

lemma canBeAsked_identityIn {start : Identity} (first : start.CanBeAsked)
    (adopted : ∀ m ∈ history, ∀ i, m.happening.created? = some i → i.CanBeAsked) :
    (identityIn start history).CanBeAsked := by
  unfold identityIn
  cases given : history.filterMap (·.happening.created?) with
  | nil => exact first
  | cons i is =>
    have mem : i ∈ history.filterMap (·.happening.created?) := given ▸ List.mem_cons_self
    obtain ⟨m, mem, created⟩ := List.mem_filterMap.mp mem
    exact adopted m mem i created

/-- The registry stays within reach as long as it names new records by addresses that can be asked,
and it is out of reach for good once it does not. -/
theorem reachability (run : Run (.ofInstance self store retryDelay) history s)
    (http : OverHttp history) : Reachability self.identity history s := by
  have idle : Stage.IsIdle .starting := fun a => by cases a <;> rfl
  have addressed : ∀ newer m older k, history = newer ++ m :: older → k ∈ m.calls →
      k.identity = identityIn self.identity older := by
    rintro newer m older k rfl begins
    obtain ⟨before, change, -⟩ := run.at_moment
    obtain ⟨e, rule⟩ := change.rule
    exact (rule.identity_calls begins).trans before.identity
  constructor
  case refused_iff =>
    intro newer m older k split begins
    rw [Call.isRefused_iff, addressed newer m older k split begins]
  case sent =>
    intro newer m older k split begins can
    rw [← addressed newer m older k split begins] at can
    exact Call.sent can
  case adopted =>
    rintro newer m older i rfl created
    obtain ⟨before, change, -⟩ := run.at_moment
    obtain ⟨o, answer, accepted⟩ := Happening.accepts_of_created created
    obtain ⟨k, peer, -, sent⟩ := http.exchange before idle change answer
    have can := http.canBeAsked_of_accepts before idle change ⟨o, answer, accepted⟩
    rw [before.identity] at can
    rw [answer, sent] at created
    obtain ⟨location, read⟩ := Call.location_of_send created
    exact ⟨can, location, relocation read⟩
  case kept =>
    intro first adopted k began
    obtain ⟨m, mem, begins⟩ := List.mem_flatMap.mp began
    obtain ⟨newer, older, rfl⟩ := List.append_of_mem mem
    rw [Call.isRefused_iff, addressed newer m older k rfl begins, not_not]
    refine canBeAsked_identityIn first fun x mem => adopted x ?_
    exact List.mem_append_right _ (List.mem_cons_of_mem _ mem)
  case lost =>
    rintro newer m older i rfl created cannot
    obtain ⟨-, change, behind⟩ := run.at_moment
    have idle := change.isIdle_of_created created
    have identity : m.after.self.identity = i := by rw [change.identity, created]; rfl
    rw [← identity] at cannot
    obtain ⟨stays, addressed, refused⟩ := behind.stuck idle (http.later behind idle) cannot
    refine ⟨stays.trans identity, fun k began => ?_, refused⟩
    rw [Call.isRefused_iff, addressed k began]
    exact cannot

/-! A registry that names a record by its path. -/

/-- The answer to a registration that names the record by a path alone. -/
def namedByPath : Http.Answer :=
  ⟨201, [("Location", Text.Utf8.encode "/nnrf-nfm/v1/nf-instances/nf-2")], []⟩

/-- The failure of a call that it leads to. -/
def addressless : Failure := .transport (.invalidUri (Identity.uri ⟨"", "nf-2"⟩) none)

/-- The first attempt is answered so; the heartbeat gets nowhere, and no more does the attempt
behind it. -/
def lostByPath : List Happening :=
  [.event (.answer (.register (.failed addressless))),
    .event (.answer (.update (.failed addressless))), .event .act, .event (.elapse 60000),
    .event (.answer (.register (.created none ⟨"", "nf-2"⟩))), .event .act]

lemma canBeAsked_first : Identity.CanBeAsked ⟨"http://nrf:8000", "nf-1"⟩ := by
  have parsed : Http.Uri.parse (Identity.uri ⟨"http://nrf:8000", "nf-1"⟩) =
    .ok ⟨some "http", some "nrf:8000", "/nnrf-nfm/v1/nf-instances/nf-1"⟩ := by decide
  exact ⟨_, parsed, rfl⟩

lemma send_namedByPath (p : Profile) :
    (Call.register ⟨"http://nrf:8000", "nf-1"⟩ p).send (fun _ => .answer namedByPath) =
      .register (.created none ⟨"", "nf-2"⟩) := by
  have can : (Call.register ⟨"http://nrf:8000", "nf-1"⟩ p).identity.CanBeAsked := canBeAsked_first
  have location : namedByPath.readHeaders.find? "location" =
    some "/nnrf-nfm/v1/nf-instances/nf-2" := by decide +kernel
  have read : Identity.ofUri? "/nnrf-nfm/v1/nf-instances/nf-2" = some ⟨"", "nf-2"⟩ := by decide
  obtain ⟨out, sent⟩ := Call.sent can
  have response : Http.Reply.toResponse (.answer namedByPath) =
    .ok ⟨201, namedByPath.readHeaders, none⟩ := rfl
  rw [Call.send, sent, response]
  simp [Call.answer, RegisterOutcome.ofExchange, Http.Response.location, location, read,
    echoedProfile]

lemma send_addressless {k : Call} (identity : k.identity = ⟨"", "nf-2"⟩)
    (peer : Http.Outgoing → Http.Reply) :
    Http.send peer k.request = .error (.invalidUri (Identity.uri ⟨"", "nf-2"⟩) none) := by
  have path : Http.Uri.parse (Identity.uri ⟨"", "nf-2"⟩) =
    .ok ⟨none, none, "/nnrf-nfm/v1/nf-instances/nf-2"⟩ := by decide
  refine Http.send_of_address_error ?_
  rw [Http.Request.address, Call.uri_request, identity, path]
  rfl

lemma play_lostByPath :
    ∃ history s, servingOne.play lostByPath = some (history, s) ∧ OverHttp history ∧
      (callsIn history).map Call.identity =
        [⟨"", "nf-2"⟩, ⟨"", "nf-2"⟩, ⟨"http://nrf:8000", "nf-1"⟩] := by
  have refused (k : Call) (identity : k.identity = ⟨"", "nf-2"⟩) :
      k.send (fun _ => .silent) =
        k.answer (.error (.invalidUri (Identity.uri ⟨"", "nf-2"⟩) none)) :=
    congrArg k.answer (send_addressless identity _)
  refine ⟨_, _, rfl, ?_, rfl⟩
  refine .cons_answered (fun _ => .silent) ?_ rfl (refused _ rfl)
  refine .cons_answered (fun _ => .silent) ?_ rfl (refused _ rfl)
  refine .cons_silent (.cons_silent ?_ (by simp)) (by simp)
  refine .cons_answered (fun _ => .answer namedByPath) ?_ rfl (send_namedByPath _)
  exact .cons_silent .nil (by simp)

/-- The laws, for that play. -/
theorem reachability_lostByPath :
    ∃ history s, servingOne.play lostByPath = some (history, s) ∧ OverHttp history ∧
      Reachability ⟨"http://nrf:8000", "nf-1"⟩ history s := by
  obtain ⟨history, s, played, http, -⟩ := play_lostByPath
  exact ⟨history, s, played, http, reachability (.of_play _ played) http⟩

/-- The first call is sent and gives an identity. The heartbeat under it is sent to nobody, and no
more is the attempt behind that heartbeat. -/
theorem unreachable_behind_path :
    Identity.CanBeAsked ⟨"http://nrf:8000", "nf-1"⟩ ∧
      (∀ p, (Call.register ⟨"http://nrf:8000", "nf-1"⟩ p).send (fun _ => .answer namedByPath) =
        .register (.created none ⟨"", "nf-2"⟩)) ∧
      (∀ k : Call, k.identity = ⟨"", "nf-2"⟩ → k.IsRefused) ∧
      ∃ history s, servingOne.play lostByPath = some (history, s) ∧ OverHttp history ∧
        (callsIn history).map Call.identity =
          [⟨"", "nf-2"⟩, ⟨"", "nf-2"⟩, ⟨"http://nrf:8000", "nf-1"⟩] := by
  refine ⟨canBeAsked_first, send_namedByPath, ?_, play_lostByPath⟩
  intro k identity peer
  refine ⟨none, ?_⟩
  rw [Call.uri_request, identity]
  exact send_addressless identity peer

end SliceSelection.Lifecycle
