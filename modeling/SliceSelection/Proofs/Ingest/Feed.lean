import Mathlib.Tactic.Common
import SliceSelection.Ingest.Applier

/-!
# Lists that are applied one after another

A feed is the applier together with the board that it alone writes and a reader reads. Whatever was
applied before, and whichever way the applier took each time, the store is what the list applied
last describes: it has no history.
-/

namespace SliceSelection

namespace Applier

variable {a a' : Applier} {b b' : Board} {list : List WireEntry} {outcome : ApplyOutcome}

/-- What applying a list does. -/
inductive Applies (a : Applier) (list : List WireEntry) (b : Board) :
    ApplyOutcome → Applier → Board → Prop where
  /-- It is the list applied last. -/
  | repeated (same : a.lastList = some list) : Applies a list b .unchanged a b
  /-- Its networks are those announced last. -/
  | moved (fresh : a.lastList ≠ some list)
      (same : a.announced = (SliceConfig.ofWire list).plmns) :
      Applies a list b (.applied false) { a with lastList := some list }
        { b with store := { b.store with slices := (SliceConfig.ofWire list).slices } }
  | published (fresh : a.lastList ≠ some list)
      (other : a.announced ≠ (SliceConfig.ofWire list).plmns) :
      Applies a list b (.applied true) ⟨some list, (SliceConfig.ofWire list).plmns⟩
        ⟨.ofWire list, b.channel.publish (SliceConfig.ofWire list).plmns⟩

lemma applies (a : Applier) (list : List WireEntry) (b : Board) :
    Applies a list b (a.apply list b).1 (a.apply list b).2.1 (a.apply list b).2.2 := by
  unfold apply
  split
  · next same => exact .repeated same
  · next fresh =>
    simp only
    split
    · next same => exact .moved fresh same
    · next other => exact .published fresh other

/-- The memory of the applier agrees with the board. -/
structure Knows (a : Applier) (b : Board) : Prop where
  announced : a.announced = b.store.plmns
  last : ∀ list, a.lastList = some list → b.store = .ofWire list

lemma Knows.ofStore {store : SliceConfig} : (Applier.ofStore store).Knows (.ofStore store) :=
  ⟨rfl, fun _ h => by cases h⟩

/-- Behind the application of a list, it is the one remembered, and the store is what it
describes. -/
lemma Applies.remembers (applies : Applies a list b outcome a' b') (knows : a.Knows b) :
    a'.lastList = some list ∧ b'.store = .ofWire list ∧ a'.announced = b'.store.plmns := by
  cases applies with
  | repeated same => exact ⟨same, knows.last list same, knows.announced⟩
  | moved _ same =>
    -- The networks are not written: the store has them because the applier remembers them.
    have plmns : b.store.plmns = (SliceConfig.ofWire list).plmns := knows.announced.symm.trans same
    exact ⟨rfl, congrArg (SliceConfig.mk · _) plmns, knows.announced⟩
  | published => exact ⟨rfl, rfl, rfl⟩

lemma Applies.knows (applies : Applies a list b outcome a' b') (knows : a.Knows b) :
    a'.Knows b' := by
  obtain ⟨last, store, announced⟩ := applies.remembers knows
  refine ⟨announced, ?_⟩
  intro other h
  obtain rfl : list = other := Option.some.inj (last.symm.trans h)
  exact store

end Applier

/-! ### Feeds -/

/-- The applier and the board that it feeds. -/
structure Feed where
  applier : Applier
  board : Board

namespace Feed

/-- How a feed is used. -/
inductive Use where
  /-- The applier applies a list. -/
  | apply (list : List WireEntry)
  /-- The reader takes what is unread, if anything is; behind that nothing is unread. -/
  | read

/-- The applier on a store on which nothing was published yet. -/
def ofStore (store : SliceConfig) : Feed := ⟨.ofStore store, .ofStore store⟩

/-- What a use makes of a feed. -/
def step (f : Feed) : Use → Feed
  | .apply list =>
    let (_, applier, board) := f.applier.apply list f.board
    ⟨applier, board⟩
  | .read => { f with board := { f.board with channel := f.board.channel.take.2 } }

/-- What the applier reports when it applies a list. -/
def report (f : Feed) (list : List WireEntry) : ApplyOutcome := (f.applier.apply list f.board).1

/-- A feed behind uses, of which the first is that at the head. -/
def after (f : Feed) (uses : List Use) : Feed := uses.foldl step f

/-- The list that is applied in a use. -/
def Use.list? : Use → Option (List WireEntry)
  | apply list => some list
  | read => none

/-- The lists that are applied, in their order. -/
def listsIn (uses : List Use) : List (List WireEntry) := uses.filterMap Use.list?

variable {f : Feed} {u : Use} {uses : List Use} {list : List WireEntry} {store : SliceConfig}

@[simp] lemma listsIn_apply : listsIn (.apply list :: uses) = list :: listsIn uses := rfl

@[simp] lemma listsIn_read : listsIn (.read :: uses) = listsIn uses := rfl

@[simp] lemma after_cons : f.after (u :: uses) = (f.step u).after uses := rfl

/-- The memory of the applier agrees with the board. -/
def Knows (f : Feed) : Prop := f.applier.Knows f.board

lemma Knows.ofStore : (Feed.ofStore store).Knows := Applier.Knows.ofStore

lemma applies (f : Feed) (list : List WireEntry) :
    Applier.Applies f.applier list f.board (f.report list) (f.step (.apply list)).applier
      (f.step (.apply list)).board :=
  f.applier.applies list f.board

lemma Knows.store_apply (knows : f.Knows) :
    (f.step (.apply list)).board.store = .ofWire list :=
  ((f.applies list).remembers knows).2.1

lemma Knows.lastList_apply (knows : f.Knows) :
    (f.step (.apply list)).applier.lastList = some list :=
  ((f.applies list).remembers knows).1

lemma Knows.step (knows : f.Knows) : (f.step u).Knows := by
  cases u with
  | apply list => exact (f.applies list).knows knows
  | read => exact ⟨knows.announced, knows.last⟩

lemma Knows.after (knows : f.Knows) : (f.after uses).Knows := by
  induction uses generalizing f with
  | nil => exact knows
  | cons u uses ih => exact ih knows.step

lemma Knows.lastList_after (knows : f.Knows) :
    (f.after uses).applier.lastList = (listsIn uses).getLast?.or f.applier.lastList := by
  induction uses generalizing f with
  | nil => rfl
  | cons u uses ih =>
    rw [after_cons, ih knows.step]
    cases u with
    | apply list =>
      rw [knows.lastList_apply, listsIn_apply, List.getLast?_cons]
      cases (listsIn uses).getLast? <;> rfl
    | read => rfl

lemma Knows.store_after (knows : f.Knows) :
    (f.after uses).board.store = (listsIn uses).getLast?.elim f.board.store .ofWire := by
  induction uses generalizing f with
  | nil => rfl
  | cons u uses ih =>
    rw [after_cons, ih knows.step]
    cases u with
    | apply list =>
      rw [knows.store_apply, listsIn_apply, List.getLast?_cons]
      cases (listsIn uses).getLast? <;> rfl
    | read => rfl

/-- Full replacement has no history: the store is what the list applied last describes, whatever was
in it at the start and was applied before; and if none was applied, it is that of the start. -/
theorem store_eq_ofWire_last (seed : SliceConfig) (uses : List Use) :
    ((ofStore seed).after uses).board.store = (listsIn uses).getLast?.elim seed .ofWire :=
  Knows.ofStore.store_after

end Feed

end SliceSelection
