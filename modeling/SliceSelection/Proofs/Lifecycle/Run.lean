import SliceSelection.Proofs.Ingest.Feed
import SliceSelection.Proofs.Lifecycle.Rule

/-!
# Runs of the coordinator and ingestion

A system is the coordinator together with the applier that feeds its board. A run is a system and
its history, whatever was announced, answered and waited for, in whatever order: what is shown of
every run holds of every script of the registry, every latency and every moment of shutdown.
-/

namespace SliceSelection

/-- The networks that a profile carries. -/
def Registry.Profile.announced (p : Registry.Profile) : List PlmnId := p.plmns.getD []

namespace Lifecycle

open Registry

/-- The coordinator and the ingestion that feeds it. -/
structure System extends Coordinator where
  applier : Applier

/-- What happens to a system. -/
inductive Happening where
  /-- Ingestion applies a list. -/
  | ingest (list : List WireEntry)
  /-- Ingestion ends, and closes the channel. -/
  | close
  /-- Something happens to the coordinator that leaves the board to ingestion. -/
  | event (e : Coordinator.Event)

/-- Whether an event is a change of the board. -/
def Coordinator.Event.isBoard : Coordinator.Event → Bool
  | board _ => true
  | _ => false

/-- Whether in an event the coordinator itself does something. -/
def Coordinator.Event.isOwn : Coordinator.Event → Bool
  | act => true
  | retry => true
  | answer _ => true
  | deregister => true
  | _ => false

/-- Whether the coordinator itself does something: ingestion, shutdown and time are not its own. -/
def Happening.isOwn : Happening → Bool
  | event e => e.isOwn
  | _ => false

namespace System

/-- A system at the start: the applier starts on the store, and the instance is unregistered. -/
def ofInstance (self : Instance) (store : SliceConfig) (retryDelay : Nat) : System :=
  { Coordinator.ofInstance (self.withState .unregistered) (.ofStore store) retryDelay with
    applier := .ofStore store }

/-- Let an event happen to the coordinator. -/
def through (s : System) (e : Coordinator.Event) : Option (System × List Call) :=
  (s.toCoordinator.step e).map fun (c, calls) => ({ s with toCoordinator := c }, calls)

/-- What a happening does, if it is enabled. Only ingestion changes the board from outside, and
nothing is ingested once the channel is closed. -/
def step (s : System) : Happening → Option (System × List Call)
  | .ingest list =>
    if s.board.channel.closed then none
    else
      let (_, applier, board) := s.applier.apply list s.board
      { s with applier := applier }.through (.board board)
  | .close => s.through (.board { s.board with channel := s.board.channel.close })
  | .event e => if e.isBoard then none else s.through e

end System

/-! ### Changes -/

/-- The changes of a system. -/
inductive Change : System → Happening → System → List Call → Prop where
  | repeated {s : System} {list : List WireEntry} (hears : s.board.channel.closed = false)
      (same : s.applier.lastList = some list) : Change s (.ingest list) s []
  | moved {s : System} {list : List WireEntry} (hears : s.board.channel.closed = false)
      (fresh : s.applier.lastList ≠ some list)
      (same : s.applier.announced = (SliceConfig.ofWire list).plmns) :
      Change s (.ingest list)
        { s with
          board := { s.board with
            store := { s.board.store with slices := (SliceConfig.ofWire list).slices } }
          applier := { s.applier with lastList := some list } } []
  | published {s : System} {list : List WireEntry} (hears : s.board.channel.closed = false)
      (fresh : s.applier.lastList ≠ some list)
      (other : s.applier.announced ≠ (SliceConfig.ofWire list).plmns) :
      Change s (.ingest list)
        { s with
          board := ⟨.ofWire list, s.board.channel.publish (SliceConfig.ofWire list).plmns⟩
          applier := ⟨some list, (SliceConfig.ofWire list).plmns⟩ } []
  | close {s : System} :
      Change s .close { s with board := { s.board with channel := s.board.channel.close } } []
  | event {s : System} {e : Coordinator.Event} {c : Coordinator} {calls : List Call}
      (own : e.isBoard = false) (rule : Coordinator.Rule s.toCoordinator e c calls) :
      Change s (.event e) { s with toCoordinator := c } calls

variable {s s' s₀ : System} {calls : List Call}

/-- Whatever an enabled happening does is a change. -/
theorem Change.of_step {h : Happening} (step : s.step h = some (s', calls)) :
    Change s h s' calls := by
  cases h with
  | ingest list =>
    simp only [System.step, Option.ite_none_left_eq_some, Bool.not_eq_true] at step
    obtain ⟨hears, step⟩ := step
    have applies := s.applier.applies list s.board
    generalize s.applier.apply list s.board = applied at step applies
    obtain ⟨outcome, applier, board⟩ := applied
    cases step
    cases applies with
    | repeated same => exact .repeated hears same
    | moved fresh same => exact .moved hears fresh same
    | published fresh other => exact .published hears fresh other
  | close =>
    cases step
    exact .close
  | event e =>
    simp only [System.step, System.through, Option.ite_none_left_eq_some, Bool.not_eq_true,
      Option.map_eq_some_iff] at step
    obtain ⟨own, ⟨c, k⟩, step, h⟩ := step
    cases h
    exact .event own (.of_step step)

/-- A change acts on the coordinator by a rule. -/
lemma Change.rule {h : Happening} (change : Change s h s' calls) :
    ∃ e, Coordinator.Rule s.toCoordinator e s'.toCoordinator calls := by
  cases change with
  | repeated _ _ => exact ⟨_, .board (b := s.board)⟩
  | moved _ _ _ => exact ⟨_, .board⟩
  | published _ _ _ => exact ⟨_, .board⟩
  | close => exact ⟨_, .board⟩
  | event _ rule => exact ⟨_, rule⟩

/-- A change at which a call begins is one of the coordinator. -/
lemma Change.rule_of_calls {h : Happening} (change : Change s h s' calls) {call : Call}
    (begins : call ∈ calls) :
    ∃ e, h = .event e ∧ Coordinator.Rule s.toCoordinator e s'.toCoordinator calls := by
  cases change with
  | event _ rule => exact ⟨_, rfl, rule⟩
  | repeated | moved | published | close => cases begins

/-! ### Histories -/

/-- A moment of a run. -/
structure Moment where
  before : System
  happening : Happening
  /-- The calls that begin. -/
  calls : List Call
  after : System

/-- `Run s₀ history s`: the moments of the history, the last one first, lead from `s₀` to `s`. -/
inductive Run (s₀ : System) : List Moment → System → Prop where
  | start : Run s₀ [] s₀
  | next {history : List Moment} {s s' : System} {h : Happening} {calls : List Call}
      (run : Run s₀ history s) (step : s.step h = some (s', calls)) :
      Run s₀ (⟨s, h, calls, s'⟩ :: history) s'

/-- A system that serves one network at the start. -/
def servingOne : System :=
  .ofInstance (.ofIdentity ⟨"http://nrf:8000", "nf-1"⟩) ⟨[⟨"208", "93"⟩], ∅⟩ 2000

/-- The first registration is accepted at once. -/
def bootAtOnce : List Happening := [.event (.answer (.register (.updated none))), .event .act]

/-- Let happenings happen, the last one first; and the history, if all were enabled. -/
def System.play (s : System) : List Happening → Option (List Moment × System)
  | [] => some ([], s)
  | h :: hs => do
    let (history, s₁) ← s.play hs
    let (s', calls) ← s₁.step h
    return (⟨s₁, h, calls, s'⟩ :: history, s')

namespace Run

variable {history earlier later : List Moment} {m : Moment}

/-- What is played is a run. -/
lemma of_play (hs : List Happening) (h : s₀.play hs = some (history, s)) :
    Run s₀ history s := by
  induction hs generalizing history s with
  | nil =>
    cases h
    exact .start
  | cons x hs ih =>
    simp only [System.play, Option.bind_eq_bind, Option.bind_eq_some_iff, Option.pure_def] at h
    obtain ⟨⟨earlier, s₁⟩, before, ⟨s', calls⟩, step, h⟩ := h
    cases h
    exact .next (ih before) step

/-- The part of a run behind a point of its history is a run from there. -/
lemma split (run : Run s₀ (later ++ earlier) s) :
    ∃ s₁, Run s₀ earlier s₁ ∧ Run s₁ later s := by
  induction later generalizing s with
  | nil => exact ⟨s, run, .start⟩
  | cons m later ih =>
    cases run with
    | next run step =>
      obtain ⟨s₁, before, behind⟩ := ih run
      exact ⟨s₁, before, .next behind step⟩

/-- The run that a moment ends, and the run behind it. -/
lemma cut (run : Run s₀ (later ++ m :: earlier) s) :
    Run s₀ (m :: earlier) m.after ∧ Run m.after later s := by
  obtain ⟨s₁, before, behind⟩ := run.split
  cases before with
  | next before step => exact ⟨.next before step, behind⟩

/-- The run up to a moment, its change, and the run behind it. -/
lemma at_moment (run : Run s₀ (later ++ m :: earlier) s) :
    Run s₀ earlier m.before ∧ Change m.before m.happening m.after m.calls ∧
      Run m.after later s := by
  obtain ⟨before, behind⟩ := run.cut
  cases before with
  | next before step => exact ⟨before, .of_step step, behind⟩

lemma append {s₁ : System} (before : Run s₀ earlier s₁) (behind : Run s₁ later s) :
    Run s₀ (later ++ earlier) s := by
  induction behind with
  | start => exact before
  | next _ step ih => exact .next ih step

/-- The moments of a run are changes. -/
lemma change (run : Run s₀ history s) (hm : m ∈ history) :
    Change m.before m.happening m.after m.calls := by
  obtain ⟨later, earlier, rfl⟩ := List.append_of_mem hm
  exact run.at_moment.2.1

/-- What every change keeps holds at the end of every run. -/
lemma keeps {P : System → Prop}
    (step : ∀ {s h s' calls}, Change s h s' calls → P s → P s') (run : Run s₀ history s)
    (start : P s₀) : P s := by
  induction run with
  | start => exact start
  | next _ move ih => exact step (.of_step move) ih

/-- What every rule keeps holds of the coordinator at the end of every run. -/
lemma keeps_rule {P : Coordinator → Prop}
    (step : ∀ {c e c' calls}, Coordinator.Rule c e c' calls → P c → P c')
    (run : Run s₀ history s) (start : P s₀.toCoordinator) : P s.toCoordinator :=
  run.keeps (P := fun s => P s.toCoordinator)
    (fun change h => by
      obtain ⟨e, rule⟩ := change.rule
      exact step rule h) start

end Run

/-! ### What happened -/

/-- The calls that began in a history, the last one first. -/
def callsIn (history : List Moment) : List Call := history.flatMap (·.calls)

lemma callsIn_cons {h : Happening} {history : List Moment} :
    callsIn (⟨s, h, calls, s'⟩ :: history) = calls ++ callsIn history := rfl

namespace Moment

/-- The networks that were published, if any were. -/
def published? (m : Moment) : Option (List PlmnId) :=
  match m.happening with
  | .ingest list =>
    if (m.before.applier.apply list m.before.board).1 = .applied true then
      some m.after.board.channel.latest
    else none
  | _ => none

/-- A registration begins, with a profile. -/
def Registers (m : Moment) (p : Profile) : Prop := ∃ i, .register i p ∈ m.calls

/-- The first registration is accepted. -/
def AcceptsBoot (m : Moment) (sent : Profile) : Prop :=
  m.before.stage = .registering .boot sent ∧ m.after.stage = .listening

end Moment

/-- The networks that were published in a history, the last ones first. -/
def publishedIn (history : List Moment) : List (List PlmnId) := history.filterMap (·.published?)

lemma publishedIn_cons_of_none {m : Moment} {history : List Moment} (quiet : m.published? = none) :
    publishedIn (m :: history) = publishedIn history := List.filterMap_cons_none quiet

end Lifecycle

end SliceSelection
