import SliceSelection.SliceStream.Watcher

/-!
# Rehearsals of the watcher

A rehearsal runs the watcher on a clock of its own against a service that follows a script: which
connections it accepts, which probes it answers, and what each stream brings when. Without a
stream the watcher waits for its next tick. Ticks are one period apart, but behind a tick that was
taken late, since a stream was being read, a whole period passes.
-/

namespace SliceSelection.SliceStream

/-- What a stream brings. -/
inductive Item where
  | snapshot (s : Snapshot)
  | error
  | close
deriving DecidableEq, Repr

/-- The script of a service. What has run out is granted, except that a subscription then fails. -/
structure ServiceScript where
  accepts : List Bool
  ready : List Bool
  /-- The streams, each the list of its items with the milliseconds to each, or nothing if the
  subscription fails. -/
  streams : List (Option (List (Nat × Item)))
deriving Repr

/-- How the service behaves during the next tick. -/
def ServiceScript.conditions (s : ServiceScript) : Conditions :=
  ⟨s.accepts.headD true, s.ready.headD true, (s.streams.headD none).isSome⟩

/-- The script behind what a tick asked. -/
def ServiceScript.behind (s : ServiceScript) (probes : List Probe) : ServiceScript :=
  probes.foldl (fun s p =>
    match p with
    | .connect _ => { s with accepts := s.accepts.tail }
    | .ready _ => { s with ready := s.ready.tail }
    | .subscribe _ _ => { s with streams := s.streams.tail }) s

/-- What is noted down of a run. -/
inductive Note where
  | probe (p : Probe)
  | item (i : Item)
deriving DecidableEq, Repr

/-- The milliseconds by which a tick may be late without moving the next one. -/
def tolerance : Nat := 5

/-- A rehearsal that is under way. -/
structure Rehearsal where
  now : Nat
  watcher : Watcher
  script : ServiceScript
  /-- The items that the stream still brings. -/
  items : List (Nat × Item)
  /-- When the last item was taken, or reading began. -/
  readSince : Nat
  period : Nat
  /-- When the next tick is due. -/
  tickDue : Nat
  cancelled : Bool
  /-- What was noted down, the last one first, each with its time. -/
  notes : List (Nat × Note)
deriving Repr

namespace Rehearsal

/-- A rehearsal before anything happened. -/
def ofWatcher (w : Watcher) (script : ServiceScript) (period : Nat) : Rehearsal :=
  ⟨0, w, script, [], 0, period, 0, false, []⟩

/-- One tick against the script. -/
def tick (r : Rehearsal) : Rehearsal :=
  let (w, probes) := r.watcher.tick r.script.conditions
  let opened := probes.any fun p => match p with
    | .subscribe _ ok => ok
    | _ => false
  { r with
    watcher := w
    items := if opened then (r.script.streams.headD none).getD [] else r.items
    readSince := if opened then r.now else r.readSince
    script := r.script.behind probes
    notes := (probes.map fun p => (r.now, Note.probe p)).reverse ++ r.notes }

/-- Take an item of the stream. -/
def take (r : Rehearsal) (i : Item) (rest : List (Nat × Item)) (b : Board) : Rehearsal × Board :=
  let r := { r with items := rest, readSince := r.now, notes := (r.now, .item i) :: r.notes }
  match i with
  | .snapshot s =>
    let (_, w, b) := r.watcher.receive s b
    ({ r with watcher := w }, b)
  | _ => ({ r with watcher := r.watcher.loseStream, items := [] }, b)

/-- What happens next at this instant: an item comes, or a tick is due. -/
def move (r : Rehearsal) (b : Board) : Option (Rehearsal × Board) :=
  if r.cancelled then none
  else if r.watcher.subscribed then
    match r.items with
    | (after, i) :: rest => if r.readSince + after ≤ r.now then some (r.take i rest b) else none
    | [] => none
  else if r.tickDue ≤ r.now then
    let next := if r.tickDue + tolerance < r.now then r.now + r.period else r.tickDue + r.period
    some ({ r with tickDue := next }.tick, b)
  else none

/-- When something is due. -/
def wakeup (r : Rehearsal) : Option Nat :=
  if r.cancelled then none
  else if r.watcher.subscribed then r.items.head?.map fun i => r.readSince + i.1
  else some r.tickDue

/-- Everything that happens at this instant, in at most a number of moves. -/
def settle : Nat → Rehearsal → Board → Rehearsal × Board
  | 0, r, b => (r, b)
  | moves + 1, r, b =>
    match r.move b with
    | some (r, b) => settle moves r b
    | none => (r, b)

/-- The number of items that the script and the stream still hold, and of ticks they lead to. -/
def size (r : Rehearsal) : Nat :=
  r.script.streams.foldl (fun n s => n + (s.getD []).length + 1) (r.items.length + 1)

/-! ### Playing -/

/-- What a run of the watcher alone shows. -/
structure Record where
  /-- The store whenever it was looked at, the last one first, and when. -/
  peeks : List (Nat × SliceConfig)
  /-- The lists that were published, the last one first; of several within one instant the last. -/
  published : List (Nat × List PlmnId)
deriving DecidableEq

/-- Play at most a number of instants: at the times of the peeks the store is looked at before
anything happens, and at the end the watcher is cancelled. A time that has passed already is taken
as the present. -/
def playWithin (stop : Nat) : Nat → List Nat → Rehearsal → Board → Record →
    Rehearsal × Board × Record
  | 0, _, r, b, seen => (r, b, seen)
  | instants + 1, peeks, r, b, seen =>
    let (due, peeks) := peeks.span (· ≤ r.now)
    let seen := { seen with peeks := due.map (fun _ => (r.now, b.store)) ++ seen.peeks }
    if peeks.isEmpty && stop ≤ r.now then ({ r with cancelled := true }, b, seen)
    else
      let (r, b) := r.settle (2 * r.size + 2) b
      let (list, channel) := b.channel.take
      let b := { b with channel := channel }
      let seen := { seen with
        published := list.toList.map (fun l => (r.now, l)) ++ seen.published }
      let next := (r.wakeup.toList ++ peeks.head?.toList ++ [stop]).filter (r.now < ·)
      match next.min? with
      | some t => playWithin stop instants peeks { r with now := t } b seen
      | none => (r, b, seen)

/-- Play until a time, looking at the store at others. -/
def run (r : Rehearsal) (stop : Nat) (peeks : List Nat) (b : Board) : Rehearsal × Board × Record :=
  playWithin stop (stop + peeks.length + peeks.foldl max 0 + 2) peeks r b ⟨[], []⟩

end Rehearsal

end SliceSelection.SliceStream
