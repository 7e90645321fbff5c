import SliceSelection.Proofs.SliceStream.Session
import SliceSelection.SliceStream.Rehearsal

/-!
# Plays of the watcher

A play is a rehearsal of the watcher on its board that is moved turn by turn: what is due happens or
time passes, the board is read, and at some time the watcher is cancelled. What is shown of all
plays holds of every script of the service, whatever fails in it and however the snapshots are
spread over the streams, and of every timing. A turn delivers at most one snapshot, which the
session takes, and everything else leaves the configuration alone.
-/

namespace SliceSelection.SliceStream

/-! ### What a service brings -/

/-- The snapshot that an item is. -/
def Item.snapshot? : Item → Option Snapshot
  | snapshot s => some s
  | _ => none

/-- The snapshot that was noted down. -/
def Note.snapshot? : Note → Option Snapshot
  | item i => i.snapshot?
  | probe _ => none

/-- The snapshots that a stream brings before it breaks or ends. -/
def brought : List (Nat × Item) → List Snapshot
  | (_, .snapshot s) :: rest => s :: brought rest
  | _ => []

/-- The snapshots that the streams of a script bring, one stream after the other. -/
def ServiceScript.brings (s : ServiceScript) : List Snapshot :=
  s.streams.flatMap fun stream => brought (stream.getD [])

/-- The snapshots that were delivered in a rehearsal, in their order. -/
def Rehearsal.delivered (r : Rehearsal) : List Snapshot :=
  r.notes.reverse.filterMap (·.2.snapshot?)

/-- The snapshots that are still to come: those of the stream that is held, and those of the streams
that may be opened. -/
def Rehearsal.pending (r : Rehearsal) : List Snapshot := brought r.items ++ r.script.brings

/-! ### Plays -/

/-- A rehearsal and the board it is played on. -/
structure Play where
  rehearsal : Rehearsal
  board : Board

/-- What may happen next in a play. -/
inductive Turn where
  /-- Something that is due, if anything is. -/
  | move
  | wait (milliseconds : Nat)
  /-- The reader of the board takes what is unread, if anything is. -/
  | read
  | cancel

namespace Play

/-- A play at the start: nothing was connected, and nothing was published. -/
def ofScript (sub : Subscription) (seed : SliceConfig) (script : ServiceScript) (period : Nat) :
    Play :=
  ⟨.ofWatcher (.ofSubscription sub (.ofStore seed)) script period, .ofStore seed⟩

def session (x : Play) : Session := ⟨x.rehearsal.watcher, x.board⟩

/-- The play behind a turn. -/
def step (x : Play) : Turn → Play
  | .move =>
    match x.rehearsal.move x.board with
    | some (r, b) => ⟨r, b⟩
    | none => x
  | .wait ms => { x with rehearsal := { x.rehearsal with now := x.rehearsal.now + ms } }
  | .read => { x with board := { x.board with channel := x.board.channel.take.2 } }
  | .cancel => { x with rehearsal := { x.rehearsal with cancelled := true } }

def after (x : Play) (turns : List Turn) : Play := turns.foldl step x

/-- The networks that a turn publishes: those that a reader finds unread behind it who had read
everything before. -/
def published? (x : Play) : Turn → Option (List PlmnId)
  | .move =>
    let read := { x.board with channel := x.board.channel.markRead }
    (x.rehearsal.move read).bind fun moved => moved.2.channel.take.1
  | _ => none

/-- The networks that turns publish, each time they do. -/
def published (x : Play) (turns : List Turn) : List (List PlmnId) :=
  seenAlong step published? x turns

def delivered (x : Play) : List Snapshot := x.rehearsal.delivered

def pending (x : Play) : List Snapshot := x.rehearsal.pending

end Play

/-! ### Ticks -/

/-- A stream was opened. -/
def Probe.opens : Probe → Bool
  | subscribe _ ok => ok
  | _ => false

lemma any_opens_of_unasked {probes : List Probe} (unasked : ∀ sub ok, .subscribe sub ok ∉ probes) :
    probes.any Probe.opens = false := by
  rw [List.any_eq_false]
  intro p asked
  cases p with
  | connect | ready => simp [Probe.opens]
  | subscribe sub ok => exact absurd asked (unasked sub ok)

/-- What comes of a probe: a connection that is ready is subscribed on, and one that is not is kept
until it was not ready too often. -/
inductive Watcher.Probed (w : Watcher) (c : Conditions) : Watcher → List Probe → Prop where
  | ready (isReady : c.isReady = true) :
      Probed w c { w with notReady := 0, subscribed := w.subscribed || c.streams }
        [.ready true, .subscribe w.subscription c.streams]
  | unready (isReady : c.isReady = false) (few : w.notReady + 1 < notReadyLimit) :
      Probed w c { w with notReady := w.notReady + 1 } [.ready false]
  | lost (isReady : c.isReady = false) (many : notReadyLimit ≤ w.notReady + 1) :
      Probed w c { w with connected := false, notReady := 0 } [.ready false]

/-- What comes of a tick: the connection that is held is probed, or the one that is made. -/
inductive Watcher.Ticked (w : Watcher) (c : Conditions) : Watcher → List Probe → Prop where
  | held {w' : Watcher} {probes : List Probe} (connected : w.connected = true)
      (probed : w.Probed c w' probes) : Ticked w c w' probes
  | made {w' : Watcher} {probes : List Probe} (connected : w.connected = false)
      (probed : Probed { w with connected := true, notReady := 0 } c w' probes) :
      Ticked w c w' (.connect true :: probes)
  | refused (connected : w.connected = false) : Ticked w c w [.connect false]

lemma Watcher.probed (w : Watcher) (c : Conditions) :
    w.Probed c (w.probe c).1 (w.probe c).2 := by
  unfold probe
  split
  · next isReady => exact .ready isReady
  · next unready =>
    rw [Bool.not_eq_true] at unready
    split
    · next many => exact .lost unready many
    · next few => exact .unready unready (Nat.lt_of_not_le few)

lemma Watcher.ticked {w w' : Watcher} {c : Conditions} {probes : List Probe}
    (tick : w.tick c = (w', probes)) : w.Ticked c w' probes := by
  unfold Watcher.tick at tick
  split at tick
  · next connected =>
    have probed := w.probed c
    rw [tick] at probed
    exact .held connected probed
  · next unconnected =>
    rw [Bool.not_eq_true] at unconnected
    split at tick
    · cases tick
      exact .made unconnected (probed ..)
    · cases tick
      exact .refused unconnected

/-- What a tick asks and leaves alone: it subscribes at most once, and then at the end. -/
inductive Watcher.Ticks (w : Watcher) (c : Conditions) : Watcher → List Probe → Prop where
  | without {connected : Bool} {notReady : Nat} {probes : List Probe}
      (unasked : ∀ sub ok, .subscribe sub ok ∉ probes) :
      Ticks w c { w with connected := connected, notReady := notReady } probes
  | subscribe {connected : Bool} {probes earlier : List Probe}
      (unasked : ∀ sub ok, .subscribe sub ok ∉ earlier)
      (asked : probes = earlier ++ [.subscribe w.subscription c.streams]) :
      Ticks w c
        { w with connected := connected, notReady := 0, subscribed := w.subscribed || c.streams }
        probes

lemma Watcher.Ticks.of_tick {w w' : Watcher} {c : Conditions} {probes : List Probe}
    (tick : w.tick c = (w', probes)) : w.Ticks c w' probes := by
  cases ticked tick with
  | refused => exact .without (by simp)
  | held _ probed =>
    cases probed with
    | ready =>
      have before : ∀ sub ok, Probe.subscribe sub ok ∉ [.ready true] := by simp
      exact .subscribe before rfl
    | unready | lost => exact .without (by simp)
  | made _ probed =>
    cases probed with
    | ready =>
      have before : ∀ sub ok, Probe.subscribe sub ok ∉ [.connect true, .ready true] := by simp
      exact .subscribe before rfl
    | unready | lost => exact .without (by simp)

lemma ServiceScript.streams_behind_of_unasked {probes : List Probe}
    (unasked : ∀ sub ok, .subscribe sub ok ∉ probes) (script : ServiceScript) :
    (script.behind probes).streams = script.streams := by
  unfold behind
  induction probes generalizing script with
  | nil => rfl
  | cons p probes ih =>
    rw [List.foldl_cons, ih (fun sub ok h => unasked sub ok (List.mem_cons_of_mem p h))]
    cases p with
    | connect | ready => rfl
    | subscribe sub ok => exact absurd List.mem_cons_self (unasked sub ok)

lemma ServiceScript.streams_behind_subscribe {probes : List Probe}
    (unasked : ∀ sub ok, .subscribe sub ok ∉ probes) (script : ServiceScript) (sub : Subscription)
    (ok : Bool) :
    (script.behind (probes ++ [.subscribe sub ok])).streams = script.streams.tail := by
  rw [← streams_behind_of_unasked unasked script]
  unfold behind
  rw [List.foldl_append]
  rfl

/-! ### Moves -/

namespace Rehearsal

variable {r : Rehearsal}

/-- Without a stream nothing is left of one. -/
def Fits (r : Rehearsal) : Prop := r.watcher.subscribed = false → r.items = []

/-- What is due, if anything is. -/
inductive Moves (r : Rehearsal) : Prop where
  | nothing (due : ∀ b, r.move b = none)
  | tick (unsubscribed : r.watcher.subscribed = false) (next : Nat)
      (due : ∀ b, r.move b = some (({ r with tickDue := next } : Rehearsal).tick, b))
  | item (after : Nat) (i : Item) (rest : List (Nat × Item)) (items : r.items = (after, i) :: rest)
      (subscribed : r.watcher.subscribed = true) (due : ∀ b, r.move b = some (r.take i rest b))

lemma moves (r : Rehearsal) : r.Moves := by
  by_cases cancelled : r.cancelled = true
  · exact .nothing fun b => by simp [move, cancelled]
  cases subscribed : r.watcher.subscribed with
  | true =>
    rcases items : r.items with _ | ⟨⟨after, i⟩, rest⟩
    · exact .nothing fun b => by simp [move, cancelled, subscribed, items]
    · by_cases due : r.readSince + after ≤ r.now
      · exact .item after i rest items subscribed fun b => by
          simp [move, cancelled, subscribed, items, due]
      · exact .nothing fun b => by simp [move, cancelled, subscribed, items, due]
  | false =>
    by_cases due : r.tickDue ≤ r.now
    · exact .tick subscribed _ fun b => by simp [move, cancelled, subscribed, due]; rfl
    · exact .nothing fun b => by simp [move, cancelled, subscribed, due]

/-- Between two rehearsals nothing happened that concerns the configuration. -/
structure Aside (r r' : Rehearsal) : Prop where
  applier : r'.watcher.applier = r.watcher.applier
  counter : r'.watcher.peerCounter = r.watcher.peerCounter
  delivered : r'.delivered = r.delivered
  pending : r'.pending = r.pending

lemma delivered_probes (r : Rehearsal) (now : Nat) (probes : List Probe) :
    ((probes.map fun p => (now, Note.probe p)).reverse ++ r.notes).reverse.filterMap
      (·.2.snapshot?) = r.delivered := by
  have none : (probes.map fun p => (now, Note.probe p)).filterMap (·.2.snapshot?) = [] := by
    simp [Note.snapshot?]
  rw [List.reverse_append, List.reverse_reverse, List.filterMap_append, none, List.append_nil]
  rfl

lemma tick_eq {w : Watcher} {probes : List Probe}
    (ticked : r.watcher.tick r.script.conditions = (w, probes)) :
    r.tick =
      { r with
        watcher := w
        items := if probes.any Probe.opens then (r.script.streams.headD none).getD [] else r.items
        readSince := if probes.any Probe.opens then r.now else r.readSince
        script := r.script.behind probes
        notes := (probes.map fun p => (r.now, Note.probe p)).reverse ++ r.notes } := by
  unfold tick
  rw [ticked]
  rfl

/-- A tick may open the next stream of the script, and then no other one was held. -/
lemma tick_aside (unsubscribed : r.watcher.subscribed = false) (fits : r.Fits) :
    r.Aside r.tick ∧ r.tick.Fits := by
  have items := fits unsubscribed
  obtain ⟨w, probes, ticked⟩ : ∃ w probes, r.watcher.tick r.script.conditions = (w, probes) :=
    ⟨_, _, rfl⟩
  rw [tick_eq ticked]
  cases Watcher.Ticks.of_tick ticked with
  | without unasked =>
    have unopened := any_opens_of_unasked unasked
    constructor
    · refine ⟨rfl, rfl, delivered_probes r r.now probes, ?_⟩
      unfold pending ServiceScript.brings
      rw [unopened, ServiceScript.streams_behind_of_unasked unasked]
      rfl
    · intro
      rw [unopened]
      exact items
  | subscribe unasked asked =>
    have opened : probes.any Probe.opens = r.script.conditions.streams := by
      rw [asked, List.any_append, any_opens_of_unasked unasked]
      simp [Probe.opens]
    constructor
    · -- The next stream of the script becomes the one that is held, which was none before.
      refine ⟨rfl, rfl, delivered_probes r r.now probes, ?_⟩
      unfold pending ServiceScript.brings
      rw [opened, asked, ServiceScript.streams_behind_subscribe unasked, ServiceScript.conditions,
        items]
      rcases r.script.streams with _ | ⟨_ | stream, streams⟩ <;> rfl
    · intro lost
      have unopened : probes.any Probe.opens = false := by simpa [unsubscribed, opened] using lost
      rw [unopened]
      exact items

/-- An item that is no snapshot ends the stream. -/
lemma take_aside {after : Nat} {i : Item} {rest : List (Nat × Item)} (b : Board)
    (items : r.items = (after, i) :: rest) (lost : i.snapshot? = none) :
    r.Aside (r.take i rest b).1 ∧ (r.take i rest b).1.Fits ∧ (r.take i rest b).2 = b := by
  cases i with
  | snapshot s => cases lost
  | error | close =>
    refine ⟨⟨rfl, rfl, ?_, ?_⟩, fun _ => rfl, rfl⟩
    · simp [take, delivered, Note.snapshot?, Item.snapshot?]
    · simp [take, pending, items, brought]

lemma take_snapshot {after : Nat} {s : Snapshot} {rest : List (Nat × Item)} (b : Board)
    (items : r.items = (after, .snapshot s) :: rest) :
    (r.take (.snapshot s) rest b).1.delivered = r.delivered ++ [s] ∧
      r.pending = s :: (r.take (.snapshot s) rest b).1.pending := by
  constructor
  · simp [take, delivered, Note.snapshot?, Item.snapshot?]
  · simp [take, pending, items, brought]

end Rehearsal

/-! ### Turns -/

namespace Play

variable {x : Play} {t : Turn} {turns : List Turn}

/-- What a turn does: it leaves aside what concerns the configuration, or it delivers a snapshot. -/
inductive Takes (x : Play) : Turn → Play → Prop where
  | aside {t : Turn} {r : Rehearsal} (aside : x.rehearsal.Aside r)
      (published : x.published? t = none) : Takes x t ⟨r, x.board⟩
  | read : Takes x .read ⟨x.rehearsal, { x.board with channel := x.board.channel.take.2 }⟩
  | snapshot {y : Play} (s : Snapshot) (session : y.session = x.session.take s)
      (published : x.published? .move = x.session.published? s)
      (delivered : y.delivered = x.delivered ++ [s]) (pending : x.pending = s :: y.pending) :
      Takes x .move y

lemma takes (fits : x.rehearsal.Fits) (t : Turn) :
    x.Takes t (x.step t) ∧ (x.step t).rehearsal.Fits := by
  cases t with
  | wait | cancel => exact ⟨.aside ⟨rfl, rfl, rfl, rfl⟩ rfl, fits⟩
  | read => exact ⟨.read, fits⟩
  | move =>
    cases x.rehearsal.moves with
    | nothing due =>
      simp only [step, due]
      refine ⟨.aside ⟨rfl, rfl, rfl, rfl⟩ ?_, fits⟩
      simp [published?, due]
    | tick unsubscribed next due =>
      obtain ⟨aside, fits⟩ := Rehearsal.tick_aside (r := { x.rehearsal with tickDue := next })
        unsubscribed fits
      simp only [step, due]
      refine ⟨.aside ⟨aside.applier, aside.counter, aside.delivered, aside.pending⟩ ?_, fits⟩
      simp [published?, due]
    | item after i rest items subscribed due =>
      simp only [step, due]
      cases i with
      | snapshot s =>
        obtain ⟨delivered, pending⟩ := Rehearsal.take_snapshot x.board items
        have published : x.published? .move = x.session.published? s := by
          simp only [published?, due]
          rfl
        refine ⟨.snapshot s rfl published delivered pending, fun lost => ?_⟩
        have held := congrArg Watcher.subscribed (x.session.watcher_take s)
        exact absurd (lost.symm.trans (held.trans subscribed)) Bool.false_ne_true
      | error | close =>
        obtain ⟨aside, fits, board⟩ := Rehearsal.take_aside x.board items rfl
        exact ⟨.aside aside (by simp [published?, due, Rehearsal.take]), fits⟩

lemma feed_of_aside {r : Rehearsal} (aside : x.rehearsal.Aside r) :
    (⟨r, x.board⟩ : Play).session.feed = x.session.feed :=
  congrArg (Feed.mk · x.board) aside.applier

/-- What every play from the start on keeps: the rehearsal fits, and the applier knows the board. -/
structure Sound (x : Play) : Prop where
  fits : x.rehearsal.Fits
  knows : x.session.feed.Knows

lemma Sound.ofScript {sub : Subscription} {seed : SliceConfig} {script : ServiceScript}
    {period : Nat} : (ofScript sub seed script period).Sound :=
  ⟨fun _ => rfl, Feed.Knows.ofStore⟩

lemma Sound.step (sound : x.Sound) (t : Turn) : (x.step t).Sound := by
  obtain ⟨takes, fits⟩ := takes sound.fits t
  refine ⟨fits, ?_⟩
  generalize x.step t = y at takes
  cases takes with
  | aside aside => exact feed_of_aside aside ▸ sound.knows
  | read => exact sound.knows.step (u := .read)
  | snapshot s session =>
    rw [session]
    exact Session.knows_take sound.knows s

lemma Sound.after (sound : x.Sound) (turns : List Turn) : (x.after turns).Sound := by
  induction turns generalizing x with
  | nil => exact sound
  | cons t turns ih => exact ih (sound.step t)

/-- What turns come to: another session takes the snapshots that they deliver, one after the other,
and comes to the same configuration. -/
structure Follows (x : Play) (turns : List Turn) (y : Session) (ss : List Snapshot) : Prop where
  delivered : (x.after turns).delivered = x.delivered ++ ss
  pending : x.pending = ss ++ (x.after turns).pending
  published : x.published turns = y.published ss
  counter : (x.after turns).session.counter = (y.takeAll ss).counter
  alike : (x.after turns).session.feed.Alike (y.takeAll ss).feed
  uses : ∃ uses, (x.after turns).session.feed = x.session.feed.after uses ∧
    Feed.listsIn uses = y.applied ss

/-- One more turn at the beginning, which delivers some snapshots or none. -/
lemma Follows.cons {x' : Play} {y : Session} {news ss : List Snapshot}
    (follows : x'.Follows turns (y.takeAll news) ss) (step : x.step t = x')
    (delivered : x'.delivered = x.delivered ++ news) (pending : x.pending = news ++ x'.pending)
    (published : (x.published? t).toList = y.published news) (uses : List Feed.Use)
    (feed : x'.session.feed = x.session.feed.after uses)
    (lists : Feed.listsIn uses = y.applied news) : x.Follows (t :: turns) y (news ++ ss) := by
  have behind : x.after (t :: turns) = x'.after turns := by rw [← step]; rfl
  constructor
  case delivered => rw [behind, follows.delivered, delivered, List.append_assoc]
  case pending => rw [behind, pending, follows.pending, List.append_assoc]
  case published =>
    rw [Session.published_append, ← published, ← follows.published, ← step]
    rfl
  case counter => rw [behind, follows.counter, Session.takeAll_append]
  case alike =>
    rw [behind, Session.takeAll_append]
    exact follows.alike
  case uses =>
    obtain ⟨later, behind', lists'⟩ := follows.uses
    refine ⟨uses ++ later, ?_, ?_⟩
    · rw [behind, behind', feed]
      exact List.foldl_append.symm
    · rw [Session.applied_append, ← lists, ← lists']
      exact List.filterMap_append ..

lemma exists_follows {y : Session} (fits : x.rehearsal.Fits)
    (counter : x.session.counter = y.counter) (alike : x.session.feed.Alike y.feed)
    (turns : List Turn) : ∃ ss, x.Follows turns y ss := by
  -- The session goes along: it takes the snapshot that a turn delivers, and else stays as it is.
  induction turns generalizing x y with
  | nil =>
    exact ⟨[], (List.append_nil _).symm, rfl, rfl, counter, alike, [], rfl, rfl⟩
  | cons t turns ih =>
    obtain ⟨takes, behind⟩ := takes fits t
    generalize step : x.step t = x' at takes behind
    cases takes with
    | aside aside published =>
      have feed := feed_of_aside aside
      obtain ⟨ss, follows⟩ := ih (y := y) behind (aside.counter.trans counter) (feed ▸ alike)
      have delivered := aside.delivered.trans (List.append_nil _).symm
      have quiet : (x.published? t).toList = y.published [] := by rw [published]; rfl
      exact ⟨ss, follows.cons step delivered aside.pending.symm quiet [] feed rfl⟩
    | read =>
      obtain ⟨ss, follows⟩ := ih (y := y) behind counter ((Feed.alike_read _).trans alike)
      exact ⟨ss, follows.cons step (List.append_nil _).symm rfl rfl [.read] rfl rfl⟩
    | snapshot s session published delivered pending =>
      have judged : s.admitted? x.session.counter = s.admitted? y.counter := by rw [counter]
      obtain ⟨-, news, alike⟩ := Session.alike_take alike judged
      have counter : x'.session.counter = (y.take s).counter := by
        rw [session, Session.counter_take, Session.counter_take, counter]
      obtain ⟨ss, follows⟩ := ih (y := y.take s) behind counter (session ▸ alike)
      have feed := Session.feed_take x.session s
      have lists := Session.applied?_eq y s
      rw [judged, ← lists] at feed
      refine ⟨[s] ++ ss, follows.cons step delivered pending ?_
        ((y.applied? s).toList.map Feed.Use.apply) ?_ ?_⟩
      · rw [published, news]
        exact (List.append_nil _).symm
      · rw [session, feed]
        cases y.applied? s <;> rfl
      · rw [Session.applied_cons]
        cases y.applied? s <;> rfl

/-- From the start on, what was delivered tells all. -/
lemma follows_ofScript {sub : Subscription} {seed : SliceConfig} {script : ServiceScript}
    {period : Nat} {y : Session} (feed : y.feed = .ofStore seed) (counter : y.counter = none)
    (turns : List Turn) :
    (ofScript sub seed script period).Follows turns y
      ((ofScript sub seed script period).after turns).delivered := by
  have alike : (ofScript sub seed script period).session.feed.Alike y.feed := by
    rw [feed]
    exact .refl _
  have fits : (ofScript sub seed script period).rehearsal.Fits := fun _ => rfl
  obtain ⟨ss, follows⟩ := exists_follows fits counter.symm alike turns
  rw [follows.delivered]
  exact follows

/-! ### Playing -/

/-- A play can be reached by turns. -/
def Reaches (x y : Play) : Prop := ∃ turns, x.after turns = y

lemma Reaches.refl (x : Play) : x.Reaches x := ⟨[], rfl⟩

lemma Reaches.turn {y : Play} (t : Turn) (reaches : (x.step t).Reaches y) : x.Reaches y := by
  obtain ⟨turns, behind⟩ := reaches
  exact ⟨t :: turns, behind⟩

lemma Reaches.until {y : Play} {time : Nat} (later : x.rehearsal.now ≤ time)
    (reaches : Reaches ⟨{ x.rehearsal with now := time }, x.board⟩ y) : x.Reaches y := by
  refine .turn (.wait (time - x.rehearsal.now)) ?_
  rw [step, Nat.add_sub_cancel' later]
  exact reaches

lemma Reaches.trans {y z : Play} (first : x.Reaches y) (later : y.Reaches z) : x.Reaches z := by
  obtain ⟨turns, rfl⟩ := first
  obtain ⟨turns', rfl⟩ := later
  exact ⟨turns ++ turns', List.foldl_append⟩

lemma reaches_settle (moves : Nat) (r : Rehearsal) (b : Board) :
    (Play.mk r b).Reaches ⟨(r.settle moves b).1, (r.settle moves b).2⟩ := by
  induction moves generalizing r b with
  | zero => exact .refl _
  | succ moves ih =>
    unfold Rehearsal.settle
    cases due : r.move b with
    | none => exact .refl _
    | some moved =>
      refine .turn .move ?_
      rw [step, due]
      exact ih moved.1 moved.2

lemma reaches_playWithin (stop instants : Nat) (peeks : List Nat) (r : Rehearsal) (b : Board)
    (seen : Rehearsal.Record) :
    let played := Rehearsal.playWithin stop instants peeks r b seen
    (Play.mk r b).Reaches ⟨played.1, played.2.1⟩ := by
  induction instants generalizing peeks r b seen with
  | zero => exact .refl _
  | succ instants ih =>
    unfold Rehearsal.playWithin
    simp only
    split
    · exact .turn .cancel (.refl _)
    · -- What is due happens, the board is read, and time passes up to what is due next.
      refine (reaches_settle (2 * r.size + 2) r b).trans (.turn .read ?_)
      generalize r.settle (2 * r.size + 2) b = settled
      split
      · next t next =>
        have later : settled.1.now < t := by
          simpa using (List.mem_filter.mp (List.min?_mem next)).2
        exact .until later.le (ih _ { settled.1 with now := t } _ _)
      · exact .refl _

/-- Playing a rehearsal is taking turns. -/
theorem reaches_run (r : Rehearsal) (stop : Nat) (peeks : List Nat) (b : Board) :
    let played := r.run stop peeks b
    (Play.mk r b).Reaches ⟨played.1, played.2.1⟩ :=
  reaches_playWithin stop _ peeks r b _

end Play

end SliceSelection.SliceStream
