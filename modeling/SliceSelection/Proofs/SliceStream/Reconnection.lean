import SliceSelection.Proofs.SliceStream.Play

/-!
# Reconnecting

Connections are refused, given up and opened again, subscriptions fail, and streams break or end.
None of it touches the configuration: a play comes to what a watcher comes to that holds one stream
all the time and takes the same snapshots. What was delivered and what is still to come is what the
streams bring, so that no snapshot is lost on the way and none comes twice.
-/

namespace SliceSelection.SliceStream

/-- A watcher that holds a stream already, on a store on which nothing was published yet. -/
def Session.ofStream (sub : Subscription) (seed : SliceConfig) : Session :=
  ⟨⟨sub, true, 0, true, none, .ofStore seed⟩, .ofStore seed⟩

namespace Session

lemma watcher_takeAll (x : Session) (ss : List Snapshot) :
    (x.takeAll ss).watcher.connected = x.watcher.connected ∧
      (x.takeAll ss).watcher.subscribed = x.watcher.subscribed := by
  induction ss generalizing x with
  | nil => exact ⟨rfl, rfl⟩
  | cons s ss ih =>
    obtain ⟨connected, subscribed⟩ := ih (x.take s)
    rw [watcher_take] at connected subscribed
    exact ⟨connected, subscribed⟩

/-- The list that was applied last is not applied again. -/
lemma take_again {x : Session} {s : Snapshot} {list : List WireEntry}
    (read : normalize s.slices = .ok list) (last : x.watcher.applier.lastList = some list)
    (known : x.counter = some s.restartCounter) : x.published? s = none ∧ x.take s = x := by
  have counter : s.counterBehind x.counter = x.counter := by
    rw [Snapshot.counterBehind, known]
    split <;> rfl
  have repeated (b : Board) :
      x.watcher.applier.apply list b = (.unchanged, x.watcher.applier, b) := if_pos last
  have kept : (x.take s).feed = x.feed ∧ x.published? s = none := by
    rw [feed_take, published?_eq, Snapshot.admitted?, read]
    split
    · exact ⟨rfl, rfl⟩
    · simp [Except.toOption, Feed.step, Feed.published?, feed, repeated]
  refine ⟨kept.2, ?_⟩
  have board : (x.take s).board = x.board := congrArg Feed.board kept.1
  have watcher : (x.take s).watcher = x.watcher := by
    rw [watcher_take, counter_take, counter, kept.1]
    rfl
  exact congrArg₂ Session.mk watcher board

end Session

namespace Play

/-- A play from its start on comes to the configuration to which a session comes that takes the
snapshots alone. -/
structure Undisturbed (script : ServiceScript) (start : Play) (turns : List Turn)
    (alone : Session) : Prop where
  /-- What was delivered and what is still to come is what the streams bring. -/
  delivered : (start.after turns).delivered ++ (start.after turns).pending = script.brings
  /-- The session never loses its stream. -/
  steady : (alone.takeAll (start.after turns).delivered).watcher.phase = .subscribed
  store : (start.after turns).board.store =
    (alone.takeAll (start.after turns).delivered).board.store
  published : start.published turns = alone.published (start.after turns).delivered
  counter : (start.after turns).session.counter =
    (alone.takeAll (start.after turns).delivered).counter
  /-- A snapshot that brings the list applied last once more, under the counter that is remembered,
  changes nothing. -/
  again : ∀ s list, normalize s.slices = .ok list →
    (alone.applied (start.after turns).delivered).getLast? = some list →
      (start.after turns).session.counter = some s.restartCounter →
        (start.after turns).session.published? s = none ∧
          (start.after turns).session.take s = (start.after turns).session

/-- Whatever fails on the way, and however the snapshots are spread over the streams, the
configuration is that of the snapshots which were delivered. That holds of all turns, and so of the
run of the watcher, which takes some. -/
theorem undisturbed (sub : Subscription) (seed : SliceConfig) (script : ServiceScript)
    (period : Nat) :
    let start := ofScript sub seed script period
    (∀ turns, Undisturbed script start turns (.ofStream sub seed)) ∧
      ∀ stop peeks, start.Reaches ⟨(start.rehearsal.run stop peeks start.board).1,
        (start.rehearsal.run stop peeks start.board).2.1⟩ := by
  refine ⟨fun turns => ?_, fun stop peeks => reaches_run _ stop peeks _⟩
  have follows : (ofScript sub seed script period).Follows turns (.ofStream sub seed) _ :=
    follows_ofScript rfl rfl turns
  constructor
  case delivered => exact follows.pending.symm
  case steady =>
    unfold Watcher.phase
    rw [(Session.watcher_takeAll _ _).2]
    rfl
  case store => exact follows.alike.store
  case published => exact follows.published
  case counter => exact follows.counter
  case again =>
    intro s list read last known
    obtain ⟨uses, feed, lists⟩ := follows.uses
    refine Session.take_again read ?_ known
    have start : (Feed.ofStore seed).Knows := .ofStore
    calc ((ofScript sub seed script period).after turns).session.feed.applier.lastList
        = ((Feed.ofStore seed).after uses).applier.lastList :=
          congrArg (·.applier.lastList) feed
      _ = (Feed.listsIn uses).getLast? := start.lastList_after.trans Option.or_none
      _ = some list := by rw [lists, last]

end Play

end SliceSelection.SliceStream
