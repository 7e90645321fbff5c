import Mathlib.Data.List.Infix
import SliceSelection.Proofs.Polling.Session
import SliceSelection.Proofs.Text.Substring
import SliceSelection.Proofs.Text.Utf8

/-!
# Polls that bring a list

The exchange of a poll ends with an error of the client or with an answer in bytes. Only an answer
brings a list, and only if everything about it is right: its content type, its status and its body.
A poll whose exchange brings none leaves nothing behind but a longer interval, so that, wherever
such polls stand in a run, the store is what the list that was brought last describes.
-/

namespace SliceSelection

/-! ### What is read of an answer -/

namespace Http

lemma Headers.find?_set {h : Headers} {name other value : String} :
    (h.set name value).find? other =
      if Text.asciiLowercase name = Text.asciiLowercase other then some value
      else h.find? other := by
  simp [set, find?, Std.ExtTreeMap.getElem?_insert]

namespace Answer

/-- The value that is kept of the headers of a name: that of the last one that is printable. -/
def kept? (a : Answer) (name : String) : Option String :=
  (a.headers.filter fun h => h.2.all isPrintable && Text.asciiLowercase h.1 == name).getLast?.map
    fun h => String.ofList (h.2.map fun b => Char.ofNat b.toNat)

lemma find?_readHeaders (a : Answer) (name : String) :
    a.readHeaders.find? name = a.kept? (Text.asciiLowercase name) := by
  unfold readHeaders kept?
  induction a.headers using List.reverseRecOn with
  | nil => simp [Headers.find?]
  | append_singleton headers h ih =>
    obtain ⟨key, value⟩ := h
    simp only [List.foldl_concat, List.filter_append]
    by_cases printable : value.all isPrintable
    · rw [if_pos printable, Headers.find?_set, ih]
      by_cases named : Text.asciiLowercase key = Text.asciiLowercase name <;>
        simp [printable, named]
    · rw [if_neg printable, ih]
      simp [printable]

/-- A body is text, an empty one the empty text, if its bytes encode one. -/
lemma readBody_iff {a : Answer} {s : String} :
    (∃ content, a.readBody = .ok content ∧ content.getD "" = s) ↔ Text.Utf8.encode s = a.body := by
  rw [← Text.Utf8.decode_eq_ok_iff]
  unfold readBody
  split_ifs with empty
  · have none : a.body = [] := List.isEmpty_iff.1 empty
    have decoded : Text.Utf8.decode [] = .ok "" := rfl
    simp [none, decoded]
  · cases Text.Utf8.decode a.body <;> simp

/-- Everything about an answer is right, and its body is the text of a list. -/
structure Brings (a : Answer) (list : List WireEntry) : Prop where
  contentType : ∃ t, a.kept? "content-type" = some t ∧ jsonType.toList <:+: t.toList
  status : a.status = 200
  body : ∃ s, Text.Utf8.encode s = a.body ∧ WireEntry.parseList? s = some list

end Answer

end Http

namespace Polling

variable {list : List WireEntry} {a : Http.Answer} {e : Http.Error}

/-- How an exchange ends. -/
abbrev Ending := Except Http.Error Http.Answer

/-- What the client makes of the end of an exchange. -/
def received (ending : Ending) : Except Http.Error Http.Response :=
  ending.bind fun a => (Http.Reply.answer a).toResponse

lemma fetched_ok_iff {r : Http.Response} :
    fetched (.ok r) = .ok list ↔
      (∃ t, r.contentType = some t ∧ Http.jsonType.toList <:+: t.toList) ∧ r.status = 200 ∧
        WireEntry.parseList? (r.content.getD "") = some list := by
  simp only [fetched, ← Text.occurs_iff, ← Option.any_eq_true]
  split_ifs with wrongType wrongStatus
  · simp_all
  · simp_all
  · split <;> simp_all

/-- A list comes of an exchange that ends with an answer which brings it, and of no other. -/
lemma fetched_received_iff {ending : Ending} :
    fetched (received ending) = .ok list ↔ ∃ a, ending = .ok a ∧ a.Brings list := by
  cases ending with
  | error e => simp [received, fetched, Except.bind]
  | ok a =>
    simp only [Except.ok.injEq, exists_eq_left']
    cases body : a.readBody with
    | error e =>
      simp only [received, Except.bind, Http.Reply.toResponse, body, Except.map, fetched]
      refine ⟨fun h => by simp at h, fun brings => ?_⟩
      obtain ⟨s, encoded, _⟩ := brings.body
      obtain ⟨content, read, _⟩ := Http.Answer.readBody_iff.2 encoded
      simp [body] at read
    | ok content =>
      have encoded := Http.Answer.readBody_iff.1 ⟨content, body, rfl⟩
      have kept : a.readHeaders.find? "content-type" = a.kept? "content-type" :=
        a.find?_readHeaders "content-type"
      simp only [received, Except.bind, Http.Reply.toResponse, body, Except.map, fetched_ok_iff,
        Http.Response.contentType, kept]
      constructor
      · rintro ⟨contentType, status, parsed⟩
        exact ⟨contentType, status, _, encoded, parsed⟩
      · rintro ⟨contentType, status, s, same, parsed⟩
        obtain rfl : s = content.getD "" := Text.Utf8.encode_injective (same.trans encoded.symm)
        exact ⟨contentType, status, parsed⟩

/-! ### Runs -/

/-- What may happen in a session, its exchanges as they end on the wire. -/
inductive Arrival where
  | poll (ending : Ending)
  | read

namespace Arrival

def event : Arrival → Event
  | poll ending => .poll (received ending)
  | read => .read

/-- The list that a poll brings. -/
def list? : Arrival → Option (List WireEntry)
  | poll ending => (fetched (received ending)).toOption
  | read => none

/-- Whether it is a poll that brings no list. -/
def fails : Arrival → Bool
  | poll ending => (list? (poll ending)).isNone
  | read => false

lemma list?_poll_iff {ending : Ending} :
    (poll ending).list? = some list ↔ ∃ a, ending = .ok a ∧ a.Brings list := by
  rw [← fetched_received_iff, list?]
  cases fetched (received ending) <;> simp [Except.toOption]

end Arrival

def listsBrought (arrivals : List Arrival) : List (List WireEntry) :=
  arrivals.filterMap Arrival.list?

variable {arrivals : List Arrival}

lemma Arrival.use?_event_of_fails {e : Arrival} (fails : e.fails) : e.event.use? = none := by
  cases e with
  | read => cases fails
  | poll ending =>
    have none : (fetched (received ending)).toOption = none := Option.isNone_iff_eq_none.1 fails
    simp [event, Event.use?, none]

lemma Arrival.list?_of_use? (e : Arrival) : e.event.use?.bind Feed.Use.list? = e.list? := by
  cases e with
  | read => rfl
  | poll ending =>
    simp only [event, Event.use?, list?]
    generalize (fetched (received ending)).toOption = brought
    cases brought <;> rfl

lemma usesIn_filter_fails :
    usesIn ((arrivals.filter (!·.fails)).map Arrival.event) =
      usesIn (arrivals.map Arrival.event) := by
  simp only [usesIn, List.filterMap_map, List.filterMap_filter]
  refine List.filterMap_congr fun e _ => ?_
  by_cases fails : e.fails
  · simp [fails, Arrival.use?_event_of_fails fails]
  · simp [fails]

lemma listsIn_usesIn :
    Feed.listsIn (usesIn (arrivals.map Arrival.event)) = listsBrought arrivals := by
  simp only [usesIn, Feed.listsIn, listsBrought, List.filterMap_map, List.filterMap_filterMap]
  exact List.filterMap_congr fun e _ => e.list?_of_use?

namespace Session

/-- A session behind arrivals, of which the first is that at the head. -/
def behind (x : Session) (arrivals : List Arrival) : Session := x.after (arrivals.map Arrival.event)

/-- A poll does all or nothing. -/
structure AllOrNothing (x : Session) : Prop where
  /-- It succeeds if and only if its exchange ends with an answer that brings a list. -/
  succeeds : ∀ ending, (∃ outcome, (x.poller.poll (received ending) x.board).1 = .ok outcome) ↔
    ∃ a list, ending = .ok a ∧ a.Brings list
  /-- If it succeeds, the list is applied and the interval is the initial one. -/
  success : ∀ a list, a.Brings list →
    x.step (.poll (received (.ok a))) =
      { poller :=
          { x.poller with
            backoff := { x.poller.backoff with current := x.poller.backoff.initial }
            applier := (x.poller.applier.apply list x.board).2.1 }
        board := (x.poller.applier.apply list x.board).2.2 }
  /-- If it fails, nothing changes but the interval. -/
  failure : ∀ ending, (∀ a list, ending = .ok a → ¬a.Brings list) →
    x.step (.poll (received ending)) =
      { x with poller := { x.poller with backoff := x.poller.backoff.onFailure } }
  /-- Polls that fail may stand anywhere in a run. -/
  interleaved : ∀ arrivals, (x.behind (arrivals.filter (!·.fails))).feed = (x.behind arrivals).feed
  brought : ∀ ending list,
    (Arrival.poll ending).list? = some list ↔ ∃ a, ending = .ok a ∧ a.Brings list
  store : ∀ arrivals,
    (x.behind arrivals).board.store = (listsBrought arrivals).getLast?.elim x.board.store .ofWire

variable {x : Session}

lemma feed_behind : (x.behind arrivals).feed = x.feed.after (usesIn (arrivals.map Arrival.event)) :=
  feed_after x _

/-- Whatever came before, a poll does all or nothing. -/
theorem allOrNothing_of_ofStore (base : String) (backoff : Backoff) (seed : SliceConfig)
    (past : List Arrival) : ((ofStore base backoff seed).behind past).AllOrNothing := by
  have knows : ((ofStore base backoff seed).behind past).feed.Knows := by
    rw [feed_behind]
    exact Feed.Knows.ofStore.after
  generalize (ofStore base backoff seed).behind past = x at knows
  refine ⟨?_, ?_, ?_, ?_, fun _ _ => Arrival.list?_poll_iff, ?_⟩
  · intro ending
    rw [exists_comm]
    simp only [← fetched_received_iff]
    cases result : fetched (received ending) with
    | error e => simp [Poller.poll_of_error result]
    | ok list => simp [Poller.poll_of_ok result]
  · intro a list brings
    have result := fetched_received_iff.2 ⟨a, rfl, brings⟩
    rw [step, Poller.poll_of_ok result]
    rfl
  · intro ending none
    cases result : fetched (received ending) with
    | error e => rw [step, Poller.poll_of_error result]
    | ok list =>
      obtain ⟨a, ends, brings⟩ := fetched_received_iff.1 result
      exact absurd brings (none a list ends)
  · intro arrivals
    rw [feed_behind, feed_behind, usesIn_filter_fails]
  · intro arrivals
    have store : (x.feed.after (usesIn (arrivals.map Arrival.event))).board.store = _ :=
      knows.store_after
    rwa [listsIn_usesIn, ← feed_behind] at store

end Session

end Polling

end SliceSelection
