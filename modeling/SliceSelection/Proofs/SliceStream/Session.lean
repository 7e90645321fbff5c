import SliceSelection.Proofs.Ingest.Publication
import SliceSelection.SliceStream.Watcher

/-!
# Sessions of the watcher

A session is the watcher together with the board that it alone writes. What a snapshot does to the
configuration is decided by the snapshot and the counter that is remembered: these tell the list
that is applied, if one is, and everything else is the feed's. So two sessions that judge a snapshot
alike and have the same memory and the same store stay that way.
-/

namespace SliceSelection

/-! ### Feeds that are alike -/

lemma Applier.apply_of_store (a : Applier) (list : List WireEntry) {b b' : Board}
    (store : b.store = b'.store) :
    (a.apply list b).1 = (a.apply list b').1 ∧ (a.apply list b).2.1 = (a.apply list b').2.1 ∧
      (a.apply list b).2.2.store = (a.apply list b').2.2.store := by
  unfold apply
  split
  · exact ⟨rfl, rfl, store⟩
  · simp only
    split
    · exact ⟨rfl, rfl, by rw [store]⟩
    · exact ⟨rfl, rfl, rfl⟩

namespace Feed

/-- Two feeds differ at most in what was published and read. -/
structure Alike (f g : Feed) : Prop where
  applier : f.applier = g.applier
  store : f.board.store = g.board.store

variable {f g h : Feed}

lemma Alike.refl (f : Feed) : f.Alike f := ⟨rfl, rfl⟩

lemma Alike.trans (alike : f.Alike g) (next : g.Alike h) : f.Alike h :=
  ⟨alike.applier.trans next.applier, alike.store.trans next.store⟩

lemma alike_read (f : Feed) : (f.step .read).Alike f := ⟨rfl, rfl⟩

lemma Alike.apply (alike : f.Alike g) (list : List WireEntry) :
    f.report list = g.report list ∧ (f.step (.apply list)).Alike (g.step (.apply list)) := by
  obtain ⟨a, b⟩ := f
  obtain ⟨a', b'⟩ := g
  obtain ⟨(rfl : a = a'), store⟩ := alike
  obtain ⟨report, applier, store⟩ := a.apply_of_store list store
  exact ⟨report, applier, store⟩

lemma Alike.published? (alike : f.Alike g) (list : List WireEntry) :
    f.published? (.apply list) = g.published? (.apply list) := by
  unfold Feed.published? Applier.apply
  rw [alike.applier]
  simp only
  split
  · rfl
  · split <;> rfl

end Feed

namespace SliceStream

/-! ### Judging snapshots -/

namespace Snapshot

/-- To a watcher that remembers this counter a snapshot comes from a service that has restarted. -/
def isOfRestart (s : Snapshot) (known : Option UInt32) : Bool := known.any (· != s.restartCounter)

/-- The type of some slice is no number. -/
def isMalformed (s : Snapshot) : Bool := !(normalize s.slices).toBool

/-- The list that is applied when a snapshot comes to a watcher that remembers this counter. -/
def admitted? (s : Snapshot) (known : Option UInt32) : Option (List WireEntry) :=
  if s.slices.isEmpty && (s.isOfRestart known || !s.isUpdate) then none
  else (normalize s.slices).toOption

/-- The counter that is remembered then. -/
def counterBehind (s : Snapshot) (known : Option UInt32) : Option UInt32 :=
  if s.slices.isEmpty && s.isOfRestart known then known else some s.restartCounter

variable {s : Snapshot} {known known' : Option UInt32}

lemma isMalformed_iff : s.isMalformed = true ↔ ∃ bad, normalize s.slices = .error bad := by
  unfold isMalformed
  cases normalize s.slices <;> simp [Except.toBool]

lemma slices_ne_nil (malformed : s.isMalformed = true) : s.slices.isEmpty = false := by
  obtain ⟨bad, refused⟩ := isMalformed_iff.mp malformed
  cases slices : s.slices with
  | nil =>
    rw [slices] at refused
    cases refused
  | cons => rfl

end Snapshot

lemma Watcher.receive_eq (w : Watcher) (s : Snapshot) (b : Board) :
    w.receive s b =
      match s.admitted? w.peerCounter with
      | none => (none, { w with peerCounter := s.counterBehind w.peerCounter }, b)
      | some list =>
        (some (w.applier.apply list b).1,
          { w with
            peerCounter := s.counterBehind w.peerCounter
            applier := (w.applier.apply list b).2.1 },
          (w.applier.apply list b).2.2) := by
  unfold receive Snapshot.admitted? Snapshot.counterBehind Snapshot.isOfRestart
  cases s.slices.isEmpty <;> cases w.peerCounter.any (· != s.restartCounter) <;>
    cases s.isUpdate <;> cases normalize s.slices <;> rfl

/-! ### Sessions -/

/-- A watcher and the board that it feeds. -/
structure Session where
  watcher : Watcher
  board : Board

/-- What is seen of steps, in their order. -/
def seenAlong {σ ε α : Type} (step : σ → ε → σ) (seen? : σ → ε → Option α) (x : σ) :
    List ε → List α
  | [] => []
  | e :: es => (seen? x e).toList ++ seenAlong step seen? (step x e) es

lemma seenAlong_append {σ ε α : Type} {step : σ → ε → σ} {seen? : σ → ε → Option α} {x : σ}
    (es es' : List ε) :
    seenAlong step seen? x (es ++ es') =
      seenAlong step seen? x es ++ seenAlong step seen? (es.foldl step x) es' := by
  induction es generalizing x with
  | nil => rfl
  | cons e es ih => rw [List.cons_append, seenAlong, ih, seenAlong, List.append_assoc]; rfl

namespace Session

/-- A watcher that has not connected yet, on a store on which nothing was published yet. -/
def ofStore (sub : Subscription) (store : SliceConfig) : Session :=
  ⟨.ofSubscription sub (.ofStore store), .ofStore store⟩

/-- The applier of the watcher and the board. -/
def feed (x : Session) : Feed := ⟨x.watcher.applier, x.board⟩

/-- The restart counter that is remembered. -/
def counter (x : Session) : Option UInt32 := x.watcher.peerCounter

/-! #### One snapshot -/

/-- The session behind a snapshot. -/
def take (x : Session) (s : Snapshot) : Session :=
  let (_, watcher, board) := x.watcher.receive s x.board
  ⟨watcher, board⟩

/-- What a snapshot comes to. -/
def outcome (x : Session) (s : Snapshot) : Option ApplyOutcome := (x.watcher.receive s x.board).1

/-- The list that a snapshot makes the applier apply. -/
def applied? (x : Session) (s : Snapshot) : Option (List WireEntry) :=
  if (x.outcome s).isSome then (normalize s.slices).toOption else none

/-- The networks that a snapshot publishes: those that a reader finds unread behind it who had read
everything before. -/
def published? (x : Session) (s : Snapshot) : Option (List PlmnId) :=
  let read := { x.board with channel := x.board.channel.markRead }
  (x.watcher.receive s read).2.2.channel.take.1

/-! #### Snapshots one after another -/

/-- The session behind snapshots. -/
def takeAll (x : Session) (ss : List Snapshot) : Session := ss.foldl take x

/-- The snapshots, each with what it comes to. -/
def outcomes (x : Session) (ss : List Snapshot) : List (Snapshot × Option ApplyOutcome) :=
  seenAlong take (fun x s => some (s, x.outcome s)) x ss

/-- The lists that are applied. -/
def applied (x : Session) (ss : List Snapshot) : List (List WireEntry) :=
  seenAlong take applied? x ss

/-- The networks that are published, each time they are. -/
def published (x : Session) (ss : List Snapshot) : List (List PlmnId) :=
  seenAlong take published? x ss

variable {x y : Session} {s : Snapshot} {ss : List Snapshot}

@[simp] lemma takeAll_nil : x.takeAll [] = x := rfl

@[simp] lemma takeAll_cons : x.takeAll (s :: ss) = (x.take s).takeAll ss := rfl

lemma takeAll_append (ss ss' : List Snapshot) :
    x.takeAll (ss ++ ss') = (x.takeAll ss).takeAll ss' := List.foldl_append

lemma published_append (ss ss' : List Snapshot) :
    x.published (ss ++ ss') = x.published ss ++ (x.takeAll ss).published ss' :=
  seenAlong_append ss ss'

lemma applied_append (ss ss' : List Snapshot) :
    x.applied (ss ++ ss') = x.applied ss ++ (x.takeAll ss).applied ss' :=
  seenAlong_append ss ss'

lemma outcomes_cons : x.outcomes (s :: ss) = (s, x.outcome s) :: (x.take s).outcomes ss := rfl

lemma applied_cons : x.applied (s :: ss) = (x.applied? s).toList ++ (x.take s).applied ss := rfl

lemma published_cons :
    x.published (s :: ss) = (x.published? s).toList ++ (x.take s).published ss := rfl

/-! #### What the judgement tells -/

lemma outcome_eq (x : Session) (s : Snapshot) :
    x.outcome s = (s.admitted? x.counter).map x.feed.report := by
  unfold outcome counter
  rw [Watcher.receive_eq]
  cases s.admitted? x.watcher.peerCounter <;> rfl

lemma applied?_eq (x : Session) (s : Snapshot) : x.applied? s = s.admitted? x.counter := by
  unfold applied?
  rw [outcome_eq, Option.isSome_map, Snapshot.admitted?]
  split <;> cases normalize s.slices <;> rfl

lemma published?_eq (x : Session) (s : Snapshot) :
    x.published? s = (s.admitted? x.counter).bind fun list => x.feed.published? (.apply list) := by
  unfold published? counter
  simp only
  rw [Watcher.receive_eq]
  cases s.admitted? x.watcher.peerCounter <;> rfl

lemma feed_take (x : Session) (s : Snapshot) :
    (x.take s).feed =
      (s.admitted? x.counter).elim x.feed fun list => x.feed.step (.apply list) := by
  unfold take counter
  rw [Watcher.receive_eq]
  cases s.admitted? x.watcher.peerCounter <;> rfl

lemma board_take (x : Session) (s : Snapshot) :
    (x.take s).board =
      (s.admitted? x.counter).elim x.board fun list => (x.feed.step (.apply list)).board := by
  have board : (x.take s).board = (x.take s).feed.board := rfl
  rw [board, feed_take]
  cases s.admitted? x.counter <;> rfl

lemma knows_take (knows : x.feed.Knows) (s : Snapshot) : (x.take s).feed.Knows := by
  rw [feed_take]
  cases s.admitted? x.counter with
  | none => exact knows
  | some list => exact knows.step (u := .apply list)

lemma counter_take (x : Session) (s : Snapshot) :
    (x.take s).counter = s.counterBehind x.counter := by
  unfold take counter
  rw [Watcher.receive_eq]
  cases s.admitted? x.watcher.peerCounter <;> rfl

/-- A snapshot has no part in the connection. -/
lemma watcher_take (x : Session) (s : Snapshot) :
    (x.take s).watcher =
      { x.watcher with peerCounter := (x.take s).counter, applier := (x.take s).feed.applier } := by
  unfold take counter feed
  rw [Watcher.receive_eq]
  cases s.admitted? x.watcher.peerCounter <;> rfl

/-- Sessions with feeds that are alike go on alike behind a snapshot that they judge alike. -/
lemma alike_take (alike : x.feed.Alike y.feed)
    (judged : s.admitted? x.counter = s.admitted? y.counter) :
    x.outcome s = y.outcome s ∧ x.published? s = y.published? s ∧
      (x.take s).feed.Alike (y.take s).feed := by
  rw [outcome_eq, outcome_eq, published?_eq, published?_eq, feed_take, feed_take, judged]
  cases s.admitted? y.counter with
  | none => exact ⟨rfl, rfl, alike⟩
  | some list =>
    obtain ⟨report, behind⟩ := alike.apply list
    exact ⟨congrArg some report, alike.published? list, behind⟩

end Session

end SliceStream

end SliceSelection
