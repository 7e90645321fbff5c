import SliceSelection.Proofs.SliceStream.Session

/-!
# Malformed snapshots

A malformed snapshot is not applied, but it leaves its restart counter behind. An empty snapshot
that comes later is judged by that counter: one that would be held to come from a restarted service
may be applied, and the other way round. Beyond that nothing tells whether the malformed snapshots
came at all.
-/

namespace SliceSelection.SliceStream

/-- The snapshots that are not malformed. -/
def wellFormed (ss : List Snapshot) : List Snapshot := ss.filter (!·.isMalformed)

variable {s : Snapshot} {ss : List Snapshot}

@[simp] lemma wellFormed_nil : wellFormed [] = [] := rfl

lemma wellFormed_cons_of_malformed (malformed : s.isMalformed = true) :
    wellFormed (s :: ss) = wellFormed ss := List.filter_cons_of_neg (by simp [malformed])

lemma wellFormed_cons (formed : s.isMalformed = false) :
    wellFormed (s :: ss) = s :: wellFormed ss := List.filter_cons_of_pos (by simp [formed])

lemma wellFormed_append (ss ss' : List Snapshot) :
    wellFormed (ss ++ ss') = wellFormed ss ++ wellFormed ss' := List.filter_append ss ss'

/-- A snapshot is empty, and was sent because the configuration changed: unless the service has
restarted, all slices are given up. -/
def Snapshot.isClearance (s : Snapshot) : Bool := s.slices.isEmpty && s.isUpdate

namespace Session

variable {x y : Session}

/-- Neither the store nor what was published nor what the other snapshots came to tells whether the
malformed ones were left out. -/
structure Unnoticed (x : Session) (ss : List Snapshot) : Prop where
  store : (x.takeAll ss).board.store = (x.takeAll (wellFormed ss)).board.store
  published : x.published ss = x.published (wellFormed ss)
  outcomes : (x.outcomes ss).filter (!·.1.isMalformed) = x.outcomes (wellFormed ss)

/-- A session behind snapshots, and another one behind those of them that are well-formed, judge
alike whether an empty snapshot comes from a restarted service wherever that matters. -/
def JudgeAlike (x y : Session) (ss : List Snapshot) : Prop :=
  ∀ earlier s later, ss = earlier ++ s :: later → s.isClearance = true →
    s.isOfRestart (x.takeAll earlier).counter =
      s.isOfRestart (y.takeAll (wellFormed earlier)).counter

/-! ### Judging alike -/

lemma admitted?_of_isClearance (clears : s.isClearance = true) (known : Option UInt32) :
    s.admitted? known = if s.isOfRestart known then none else some [] := by
  obtain ⟨empty, update⟩ := Bool.and_eq_true_iff.mp clears
  have applied : (normalize s.slices).toOption = some [] := by
    rw [List.isEmpty_iff.mp empty]
    rfl
  unfold Snapshot.admitted?
  rw [empty, update, applied]
  cases s.isOfRestart known <;> rfl

lemma admitted?_of_not_isClearance (clears : s.isClearance = false) (known known' : Option UInt32) :
    s.admitted? known = s.admitted? known' := by
  unfold Snapshot.admitted?
  cases empty : s.slices.isEmpty with
  | false => rfl
  | true =>
    rw [Snapshot.isClearance, empty, Bool.true_and] at clears
    simp [clears]

lemma admitted?_eq_iff (known known' : Option UInt32) :
    s.admitted? known = s.admitted? known' ↔
      (s.isClearance = true → s.isOfRestart known = s.isOfRestart known') := by
  cases clears : s.isClearance with
  | false => simp [admitted?_of_not_isClearance clears known known']
  | true =>
    rw [admitted?_of_isClearance clears, admitted?_of_isClearance clears]
    cases s.isOfRestart known <;> cases s.isOfRestart known' <;> simp

lemma admitted?_eq_of_isSome {known known' : Option UInt32}
    (same : (s.admitted? known).isSome = (s.admitted? known').isSome) :
    s.admitted? known = s.admitted? known' := by
  unfold Snapshot.admitted? at same ⊢
  split <;> split <;> simp_all

lemma admitted?_of_malformed (malformed : s.isMalformed = true) (known : Option UInt32) :
    s.admitted? known = none := by
  obtain ⟨bad, refused⟩ := Snapshot.isMalformed_iff.mp malformed
  rw [Snapshot.admitted?, Snapshot.slices_ne_nil malformed, refused]
  rfl

lemma forall_split_cons {α : Type} {P : List α → α → Prop} {a : α} {l : List α} :
    (∀ earlier b later, a :: l = earlier ++ b :: later → P earlier b) ↔
      P [] a ∧ ∀ earlier b later, l = earlier ++ b :: later → P (a :: earlier) b := by
  constructor
  · intro each
    refine ⟨each [] a l rfl, ?_⟩
    rintro earlier b later rfl
    exact each (a :: earlier) b later rfl
  · rintro ⟨first, rest⟩ (_ | ⟨c, earlier⟩) b later split
    · cases split
      exact first
    · cases split
      exact rest earlier b later rfl

lemma judgeAlike_nil : JudgeAlike x y [] := by
  intro earlier s later split
  cases earlier <;> cases split

lemma judgeAlike_cons_of_malformed (malformed : s.isMalformed = true) :
    JudgeAlike x y (s :: ss) ↔ JudgeAlike (x.take s) y ss := by
  have clears : s.isClearance = false := by
    rw [Snapshot.isClearance, Snapshot.slices_ne_nil malformed]
    rfl
  unfold JudgeAlike
  rw [forall_split_cons]
  simp only [clears, wellFormed_cons_of_malformed malformed, takeAll_cons, Bool.false_eq_true,
    false_implies, true_and]

lemma judgeAlike_cons (formed : s.isMalformed = false) :
    JudgeAlike x y (s :: ss) ↔
      s.admitted? x.counter = s.admitted? y.counter ∧ JudgeAlike (x.take s) (y.take s) ss := by
  unfold JudgeAlike
  rw [forall_split_cons, admitted?_eq_iff]
  simp only [wellFormed_nil, wellFormed_cons formed, takeAll_nil, takeAll_cons]

/-! ### What is told -/

lemma outcome_of_malformed (malformed : s.isMalformed = true) : x.outcome s = none := by
  rw [outcome_eq, admitted?_of_malformed malformed]
  rfl

lemma published?_of_malformed (malformed : s.isMalformed = true) : x.published? s = none := by
  rw [published?_eq, admitted?_of_malformed malformed]
  rfl

lemma take_of_malformed (malformed : s.isMalformed = true) :
    x.take s = { x with watcher := { x.watcher with peerCounter := some s.restartCounter } } := by
  unfold take
  rw [Watcher.receive_eq, admitted?_of_malformed malformed, Snapshot.counterBehind,
    Snapshot.slices_ne_nil malformed]
  rfl

/-- The outcomes of the snapshots that are not malformed tell how they were judged. -/
lemma outcomes_iff (alike : x.feed.Alike y.feed) :
    (x.outcomes ss).filter (!·.1.isMalformed) = y.outcomes (wellFormed ss) ↔
      JudgeAlike x y ss := by
  induction ss generalizing x y with
  | nil => exact iff_of_true rfl judgeAlike_nil
  | cons s ss ih =>
    rw [outcomes_cons]
    cases malformed : s.isMalformed with
    | true =>
      have left : (x.take s).feed.Alike y.feed := by
        rw [take_of_malformed malformed]
        exact alike
      rw [List.filter_cons_of_neg (by simp [malformed]), wellFormed_cons_of_malformed malformed,
        judgeAlike_cons_of_malformed malformed]
      exact ih left
    | false =>
      rw [List.filter_cons_of_pos (by simp [malformed]), wellFormed_cons malformed, outcomes_cons,
        judgeAlike_cons malformed, List.cons.injEq, Prod.mk.injEq]
      by_cases judged : s.admitted? x.counter = s.admitted? y.counter
      · obtain ⟨outcome, -, behind⟩ := alike_take alike judged
        rw [ih behind]
        simp [judged, outcome]
      · -- One of the two applies the list of the snapshot, and the other one does nothing.
        have outcome : x.outcome s ≠ y.outcome s := by
          intro same
          rw [outcome_eq, outcome_eq] at same
          have isSome := congrArg Option.isSome same
          rw [Option.isSome_map, Option.isSome_map] at isSome
          exact judged (admitted?_eq_of_isSome isSome)
        simp [judged, outcome]

/-- Where the snapshots are judged alike, the same is published and the feeds stay alike. -/
lemma JudgeAlike.alike (judged : JudgeAlike x y ss) (alike : x.feed.Alike y.feed) :
    x.published ss = y.published (wellFormed ss) ∧
      (x.takeAll ss).feed.Alike (y.takeAll (wellFormed ss)).feed := by
  induction ss generalizing x y with
  | nil => exact ⟨rfl, alike⟩
  | cons s ss ih =>
    rw [published_cons]
    cases malformed : s.isMalformed with
    | true =>
      have left : (x.take s).feed.Alike y.feed := by
        rw [take_of_malformed malformed]
        exact alike
      rw [wellFormed_cons_of_malformed malformed, published?_of_malformed malformed]
      exact ih ((judgeAlike_cons_of_malformed malformed).mp judged) left
    | false =>
      obtain ⟨same, judged⟩ := (judgeAlike_cons malformed).mp judged
      obtain ⟨-, published, behind⟩ := alike_take alike same
      obtain ⟨rest, behind⟩ := ih judged behind
      rw [wellFormed_cons malformed, published_cons, published, rest]
      exact ⟨rfl, behind⟩

/-- Malformed snapshots that carry the counter that is remembered change nothing. -/
lemma takeAll_wellFormed
    (known : ∀ earlier s later, ss = earlier ++ s :: later → s.isMalformed = true →
      (x.takeAll earlier).counter = some s.restartCounter) :
    x.takeAll (wellFormed ss) = x.takeAll ss := by
  induction ss generalizing x with
  | nil => rfl
  | cons s ss ih =>
    obtain ⟨first, rest⟩ := forall_split_cons.mp known
    rw [takeAll_cons, ← ih rest]
    cases malformed : s.isMalformed with
    | true =>
      have same : x.take s = x := by
        rw [take_of_malformed malformed, ← first malformed]
        rfl
      rw [wellFormed_cons_of_malformed malformed, same]
    | false => rw [wellFormed_cons malformed, takeAll_cons]

/-- How malformed snapshots are discarded. -/
structure Discarding (x : Session) : Prop where
  /-- Of a malformed snapshot only the counter stays. -/
  rest : ∀ s, s.isMalformed = true → x.outcome s = none ∧ x.published? s = none ∧
    x.take s = { x with watcher := { x.watcher with peerCounter := some s.restartCounter } }
  /-- Nothing else tells that malformed snapshots came if and only if the empty snapshots that may
  clear the configuration are judged alike with and without them. -/
  unnoticed_iff : ∀ ss, Unnoticed x ss ↔ JudgeAlike x x ss
  /-- So it is where each of them carries the counter that is remembered when it comes, and then
  the counter does not tell either. -/
  known : ∀ ss, (∀ earlier s later, ss = earlier ++ s :: later → s.isMalformed = true →
    (x.takeAll earlier).counter = some s.restartCounter) →
      x.takeAll (wellFormed ss) = x.takeAll ss ∧ Unnoticed x ss
  /-- Behind the next well-formed snapshot with slices the counter is the same in any case. -/
  renewed : ∀ ss s, s.isMalformed = false → s.slices.isEmpty = false →
    (x.takeAll (ss ++ [s])).counter = (x.takeAll (wellFormed (ss ++ [s]))).counter

/-- A malformed snapshot is discarded but for its counter, by which empty snapshots are judged. -/
theorem discarding (x : Session) : Discarding x := by
  have unnoticed_iff : ∀ ss, Unnoticed x ss ↔ JudgeAlike x x ss := by
    intro ss
    constructor
    · exact fun unnoticed => (outcomes_iff (.refl _)).mp unnoticed.outcomes
    · intro judged
      obtain ⟨published, behind⟩ := judged.alike (.refl _)
      exact ⟨behind.store, published, (outcomes_iff (.refl _)).mpr judged⟩
  constructor
  case rest =>
    intro s malformed
    exact ⟨outcome_of_malformed malformed, published?_of_malformed malformed,
      take_of_malformed malformed⟩
  case unnoticed_iff => exact unnoticed_iff
  case known =>
    intro ss known
    refine ⟨takeAll_wellFormed known, (unnoticed_iff ss).mpr ?_⟩
    rintro earlier s later rfl -
    rw [takeAll_wellFormed]
    rintro before t after rfl malformed
    exact known before t (after ++ s :: later) (by simp) malformed
  case renewed =>
    intro ss s formed slices
    have counter (y : Session) : (y.take s).counter = some s.restartCounter := by
      rw [counter_take, Snapshot.counterBehind, slices]
      rfl
    rw [wellFormed_append, wellFormed_cons formed, takeAll_append, wellFormed_nil, takeAll_append]
    exact (counter _).trans (counter _).symm

/-- A slice is served, then a restarted service streams one whose type is no number, and then
nothing at all. -/
def garbledRestart : List Snapshot :=
  [⟨[⟨"a", some ⟨"1", ""⟩, some ⟨"s", some ⟨"208", "93"⟩⟩⟩], 1, 1⟩,
    ⟨[⟨"b", some ⟨"x", ""⟩, some ⟨"s", some ⟨"208", "93"⟩⟩⟩], 2, 1⟩, ⟨[], 2, 1⟩]

/-- A malformed snapshot may cost the configuration: the restarted service that sends it is known
when it then sends nothing. Without it nothing is lost. -/
theorem lost_behind_malformed :
    let x := ofStore ⟨42, "nssf-0"⟩ .empty
    (x.takeAll garbledRestart).board.store.plmns = [] ∧
      (x.takeAll (wellFormed garbledRestart)).board.store.plmns = [⟨"208", "93"⟩] ∧
      ¬ Unnoticed x garbledRestart := by
  refine ⟨rfl, rfl, fun unnoticed => ?_⟩
  have plmns := congrArg SliceConfig.plmns unnoticed.store
  cases plmns

end Session

end SliceSelection.SliceStream
