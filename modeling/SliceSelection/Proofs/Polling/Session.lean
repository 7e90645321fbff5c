import SliceSelection.Polling.Poller
import SliceSelection.Proofs.Ingest.Feed

/-!
# Sessions of the poller

A session is the poller together with the board that it alone writes and a reader reads. To the feed
a poll is the application of the list that it yields, and where it failed nothing at all.
-/

namespace SliceSelection.Polling

namespace Poller

variable {p : Poller} {exchange : Except Http.Error Http.Response} {b : Board}

lemma poll_of_error {e : FetchError} (failed : fetched exchange = .error e) :
    p.poll exchange b = (.error e, { p with backoff := p.backoff.onFailure }, b) := by
  unfold poll
  rw [failed]

lemma poll_of_ok {list : List WireEntry} (yielded : fetched exchange = .ok list) :
    p.poll exchange b =
      (.ok (p.applier.apply list b).1,
        { p with backoff := p.backoff.onSuccess, applier := (p.applier.apply list b).2.1 },
        (p.applier.apply list b).2.2) := by
  unfold poll
  rw [yielded]

end Poller

structure Session where
  poller : Poller
  board : Board

/-- What may happen in a session. -/
inductive Event where
  /-- A poll comes to an end. -/
  | poll (exchange : Except Http.Error Http.Response)
  /-- The reader of the board takes what is unread, if anything is. -/
  | read

/-- How an event uses the feed, if it does. -/
def Event.use? : Event → Option Feed.Use
  | poll exchange => (fetched exchange).toOption.map .apply
  | read => some .read

/-- The uses of the feed, in their order. -/
def usesIn (events : List Event) : List Feed.Use := events.filterMap Event.use?

namespace Session

/-- A poller that has not polled yet, on a store on which nothing was published yet. -/
def ofStore (base : String) (backoff : Backoff) (store : SliceConfig) : Session :=
  ⟨.ofBase base backoff (.ofStore store), .ofStore store⟩

def step (x : Session) : Event → Session
  | .poll exchange =>
    let (_, poller, board) := x.poller.poll exchange x.board
    ⟨poller, board⟩
  | .read => { x with board := { x.board with channel := x.board.channel.take.2 } }

def after (x : Session) (events : List Event) : Session := events.foldl step x

/-- The applier of the poller and the board. -/
def feed (x : Session) : Feed := ⟨x.poller.applier, x.board⟩

lemma feed_step (x : Session) (e : Event) : (x.step e).feed = e.use?.elim x.feed x.feed.step := by
  cases e with
  | read => rfl
  | poll exchange =>
    unfold step Event.use?
    cases result : fetched exchange with
    | error e => simp [Poller.poll_of_error result, result, feed, Except.toOption]
    | ok list => simp [Poller.poll_of_ok result, result, feed, Except.toOption, Feed.step]

lemma feed_after (x : Session) (events : List Event) :
    (x.after events).feed = x.feed.after (usesIn events) := by
  induction events generalizing x with
  | nil => rfl
  | cons e events ih =>
    calc (x.after (e :: events)).feed = (x.step e).feed.after (usesIn events) := ih (x.step e)
      _ = x.feed.after (usesIn (e :: events)) := by
        rw [feed_step, usesIn, usesIn, List.filterMap_cons]
        cases e.use? <;> rfl

end Session

end SliceSelection.Polling
