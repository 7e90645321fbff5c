import Mathlib.Data.List.Destutter
import SliceSelection.Proofs.Ingest.Feed

/-!
# What a feed publishes

The applier remembers the networks that it announced last, the store holds some, and the channel
holds those published last, read or not. The three never drift apart: the networks of a list are
published if and only if they are not those in the store, and a reader who has read everything knows
the networks in the store.
-/

namespace SliceSelection

@[simp] lemma Channel.latest_take {c : Channel} : c.take.2.latest = c.latest := by
  unfold take
  split <;> rfl

namespace Applier.Applies

variable {a a' : Applier} {b b' : Board} {list : List WireEntry} {outcome : ApplyOutcome}

lemma channel (applies : Applies a list b outcome a' b') (knows : a.Knows b) :
    b'.channel = if b.store.plmns = (SliceConfig.ofWire list).plmns then b.channel
      else b.channel.publish (SliceConfig.ofWire list).plmns := by
  cases applies with
  | repeated same =>
    rw [if_pos]
    exact congrArg SliceConfig.plmns (knows.last list same)
  | moved _ same => rw [if_pos (knows.announced ▸ same)]
  | published _ other => rw [if_neg (knows.announced ▸ other)]

lemma outcome_iff (applies : Applies a list b outcome a' b') (knows : a.Knows b) :
    outcome = .applied true ↔ b.store.plmns ≠ (SliceConfig.ofWire list).plmns := by
  cases applies with
  | repeated same => simp [knows.last list same]
  | moved _ same => simp [← knows.announced, same]
  | published _ other => simp [← knows.announced, other]

lemma unchanged_iff (applies : Applies a list b outcome a' b') :
    outcome = .unchanged ↔ a.lastList = some list := by
  cases applies with
  | repeated same => simp [same]
  | moved fresh | published fresh => simp [fresh]

lemma of_same (applies : Applies a list b outcome a' b') (same : a.lastList = some list) :
    a' = a ∧ b' = b := by
  cases applies with
  | repeated => exact ⟨rfl, rfl⟩
  | moved fresh | published fresh => exact absurd same fresh

end Applier.Applies

namespace Feed

/-! ### What is seen of uses -/

/-- The networks that a use publishes: those that a reader finds unread behind it who had read
everything before. -/
def published? (f : Feed) : Use → Option (List PlmnId)
  | .apply list =>
    let read := { f.board with channel := f.board.channel.markRead }
    (f.applier.apply list read).2.2.channel.take.1
  | .read => none

/-- The networks that the reader takes in a use. -/
def taken? (f : Feed) : Use → Option (List PlmnId)
  | .apply _ => none
  | .read => f.board.channel.take.1

/-- What is seen of uses, in their order. -/
def seenIn {α : Type} (seen? : Feed → Use → Option α) (f : Feed) : List Use → List α
  | [] => []
  | u :: uses => (seen? f u).toList ++ seenIn seen? (f.step u) uses

/-- The networks that are published, each time they are. -/
def published (f : Feed) (uses : List Use) : List (List PlmnId) := f.seenIn published? uses

/-- The networks that the reader takes, each time there are any. -/
def taken (f : Feed) (uses : List Use) : List (List PlmnId) := f.seenIn taken? uses

/-- The networks of the lists that are applied. -/
def plmnsIn (uses : List Use) : List (List PlmnId) :=
  (listsIn uses).map fun list => (SliceConfig.ofWire list).plmns

variable {f : Feed} {u : Use} {uses : List Use} {list : List WireEntry} {store : SliceConfig}
  {known : List PlmnId}

lemma published_cons :
    f.published (u :: uses) = (f.published? u).toList ++ (f.step u).published uses := rfl

lemma taken_cons : f.taken (u :: uses) = (f.taken? u).toList ++ (f.step u).taken uses := rfl

lemma Knows.published?_apply (knows : f.Knows) :
    f.published? (.apply list) =
      if f.board.store.plmns = (SliceConfig.ofWire list).plmns then none
      else some (SliceConfig.ofWire list).plmns := by
  have read : f.applier.Knows { f.board with channel := f.board.channel.markRead } :=
    ⟨knows.announced, knows.last⟩
  unfold published?
  simp only
  rw [(f.applier.applies list _).channel read]
  split <;> rfl

lemma Knows.channel_apply (knows : f.Knows) :
    (f.step (.apply list)).board.channel =
      (f.published? (.apply list)).elim f.board.channel f.board.channel.publish := by
  rw [(f.applies list).channel knows, knows.published?_apply]
  split <;> rfl

lemma Knows.report_iff (knows : f.Knows) :
    f.report list = .applied true ↔ (f.published? (.apply list)).isSome = true := by
  rw [(f.applies list).outcome_iff knows, knows.published?_apply]
  split <;> simp [*]

/-! ### What is published -/

/-- The networks of the start and those published behind it are those of the start and of all lists,
without those that repeat the ones before. -/
lemma Knows.published (knows : f.Knows) :
    f.board.store.plmns :: f.published uses =
      (f.board.store.plmns :: plmnsIn uses).destutter (· ≠ ·) := by
  -- The networks in the store are the item that the next ones are compared with.
  rw [List.destutter_cons']
  induction uses generalizing f with
  | nil => rfl
  | cons u uses ih =>
    cases u with
    | read => exact ih (knows.step (u := .read))
    | apply list =>
      have behind := ih (knows.step (u := .apply list))
      rw [knows.store_apply] at behind
      rw [published_cons, knows.published?_apply, plmnsIn, listsIn_apply, List.map_cons, ← plmnsIn]
      by_cases same : f.board.store.plmns = (SliceConfig.ofWire list).plmns
      · rw [if_pos same, List.destutter'_cons_neg _ (not_not.mpr same), same]
        exact behind
      · rw [if_neg same, List.destutter'_cons_pos _ same, ← behind]
        rfl

lemma Knows.latest (knows : f.Knows)
    (news : f.published uses ≠ [] ∨ f.board.channel.latest = f.board.store.plmns) :
    (f.after uses).board.channel.latest = (f.after uses).board.store.plmns := by
  induction uses generalizing f with
  | nil => exact news.resolve_left (not_not.mpr rfl)
  | cons u uses ih =>
    apply ih knows.step
    cases u with
    | read =>
      exact news.imp_right Channel.latest_take.trans
    | apply list =>
      rw [published_cons] at news
      rw [knows.channel_apply, knows.store_apply]
      rw [knows.published?_apply] at news ⊢
      split
      · next same =>
        rw [if_pos same] at news
        rwa [← same]
      · exact .inr rfl

/-! ### What is read -/

/-- A reader who took these networks last knows those in the store unless something is unread, which
is what is in the store. -/
structure Heard (f : Feed) (known : List PlmnId) : Prop where
  unread : f.board.channel.unread = true → f.board.channel.latest = f.board.store.plmns
  read : f.board.channel.unread = false → f.board.store.plmns = known

lemma Heard.step (heard : f.Heard known) (knows : f.Knows) :
    (f.step u).Heard ((f.taken? u).getD known) := by
  cases u with
  | read =>
    cases unread : f.board.channel.unread with
    | true =>
      have latest := heard.unread unread
      constructor <;> simp [Feed.step, taken?, Channel.take, unread, Channel.markRead, latest]
    | false =>
      have read := heard.read unread
      constructor <;> simp [Feed.step, taken?, Channel.take, unread, read]
  | apply list =>
    have store : (f.step (.apply list)).board.store = .ofWire list := knows.store_apply
    have channel : (f.step (.apply list)).board.channel = _ := knows.channel_apply
    rw [knows.published?_apply] at channel
    by_cases same : f.board.store.plmns = (SliceConfig.ofWire list).plmns
    · rw [if_pos same, Option.elim_none] at channel
      constructor <;> rw [channel, store, ← same]
      · exact heard.unread
      · exact heard.read
    · rw [if_neg same, Option.elim_some] at channel
      constructor <;> rw [channel, store]
      · exact fun _ => rfl
      · exact fun read => by cases read

lemma Heard.after (heard : f.Heard known) (knows : f.Knows) :
    (f.after uses).Heard ((f.taken uses).getLast?.getD known) := by
  induction uses generalizing f known with
  | nil => exact heard
  | cons u uses ih =>
    have behind := ih (heard.step knows (u := u)) knows.step
    rw [taken_cons, List.getLast?_append]
    cases last : ((f.step u).taken uses).getLast? with
    | none =>
      rw [last] at behind
      cases taken : f.taken? u <;> rwa [taken] at behind
    | some ps => rwa [last] at behind

/-- How the networks in the store are made known: `f` is the feed behind some uses of the one that
starts on a store. -/
structure Signals (seed : SliceConfig) (uses : List Use) (f : Feed) : Prop where
  /-- Behind the networks of the start those are published that differ from the ones before. -/
  published : seed.plmns :: (ofStore seed).published uses =
    (seed.plmns :: plmnsIn uses).destutter (· ≠ ·)
  /-- What is published goes on the channel, and nothing else does. -/
  channel : ∀ list, (f.step (.apply list)).board.channel =
    (f.published? (.apply list)).elim f.board.channel f.board.channel.publish
  /-- The report says that networks were published when they were. -/
  reported : ∀ list, f.report list = .applied true ↔ (f.published? (.apply list)).isSome = true
  /-- It says that nothing was done when the list is the one applied last. -/
  repeated : ∀ list, f.report list = .unchanged ↔ (listsIn uses).getLast? = some list
  unchanged : ∀ list, (listsIn uses).getLast? = some list →
    f.published? (.apply list) = none ∧ f.step (.apply list) = f
  /-- Once anything was published, the channel holds the networks in the store. -/
  latest : (ofStore seed).published uses ≠ [] → f.board.channel.latest = f.board.store.plmns
  /-- Where nothing is unread, the networks in the store are those that were taken last. -/
  read : f.board.channel.unread = false →
    f.board.store.plmns = ((ofStore seed).taken uses).getLast?.getD seed.plmns

/-- Networks are published exactly when they change, and no change is missed, whatever is applied
and whenever the reader reads. -/
theorem signals (seed : SliceConfig) (uses : List Use) :
    Signals seed uses ((ofStore seed).after uses) := by
  have start : (ofStore seed).Knows := .ofStore
  have knows : ((ofStore seed).after uses).Knows := start.after
  have heard : (ofStore seed).Heard seed.plmns :=
    ⟨fun h => absurd h Bool.false_ne_true, fun _ => rfl⟩
  have last : ((ofStore seed).after uses).applier.lastList = (listsIn uses).getLast? :=
    start.lastList_after.trans Option.or_none
  constructor
  case published => exact start.published
  case channel => exact fun list => knows.channel_apply
  case reported => exact fun list => knows.report_iff
  case repeated => exact fun list => last ▸ (Feed.applies _ list).unchanged_iff
  case unchanged =>
    intro list same
    rw [← last] at same
    obtain ⟨applier, board⟩ := (Feed.applies _ list).of_same same
    refine ⟨?_, congrArg₂ Feed.mk applier board⟩
    rw [knows.published?_apply, knows.last list same, if_pos rfl]
  case latest => exact fun news => start.latest (.inl news)
  case read => exact (heard.after start).read

end Feed

end SliceSelection
