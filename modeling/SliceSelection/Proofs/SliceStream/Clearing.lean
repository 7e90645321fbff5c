import SliceSelection.Proofs.Ingest.Grouping
import SliceSelection.Proofs.SliceStream.Play

/-!
# Clearing the configuration

A snapshot is void if none of its slices names both a network and an identifier; the list that it
brings is empty. Whether a void snapshot clears the configuration is asked of the slices as they are
streamed: where there are none, the service must not have restarted and must say that the
configuration changed, and where there are some, nothing is asked. So slices that are left out one
by one may clear the configuration where no slices at all could not.
-/

namespace SliceSelection

lemma Feed.Knows.board_apply_nil {f : Feed} (knows : f.Knows) :
    (f.step (.apply [])).board = f.board ↔ f.board.store = .empty := by
  have described : SliceConfig.ofWire [] = .empty := rfl
  constructor
  · intro same
    rw [← same, knows.store_apply, described]
  · intro empty
    have channel := (f.applies []).channel knows
    rw [described, empty, if_pos (rfl : SliceConfig.empty.plmns = _)] at channel
    calc (f.step (.apply [])).board
        = ⟨.ofWire [], f.board.channel⟩ := congrArg₂ Board.mk knows.store_apply channel
      _ = f.board := by rw [described, ← empty]

namespace SliceStream

/-- No slice names both a network and an identifier. -/
def Snapshot.IsVoid (s : Snapshot) : Prop :=
  ∀ i ∈ s.slices, i.nssai = none ∨ i.site.bind (·.plmn) = none

/-! ### Void snapshots -/

lemma Slice.entry_eq_none_iff {i : Slice} :
    i.entry = .ok none ↔ i.nssai = none ∨ i.site.bind (·.plmn) = none := by
  unfold entry
  cases i.site.bind (·.plmn) <;> cases i.nssai
  case some.some plmn nssai =>
    simp only
    split <;> simp
  all_goals simp

lemma normalize_nil : normalize [] = .ok [] := rfl

lemma normalize_cons (i : Slice) (slices : List Slice) :
    normalize (i :: slices) =
      i.entry.bind fun e => (normalize slices).map fun list => e.toList ++ list := by
  unfold normalize
  rw [List.mapM_cons]
  cases i.entry with
  | error bad => rfl
  | ok e =>
    cases slices.mapM Slice.entry with
    | error bad => rfl
    | ok es => cases e <;> rfl

lemma normalize_eq_nil_iff {slices : List Slice} :
    normalize slices = .ok [] ↔ ∀ i ∈ slices, i.entry = .ok none := by
  induction slices with
  | nil => simp [normalize_nil]
  | cons i slices ih =>
    rw [normalize_cons, List.forall_mem_cons, ← ih]
    cases i.entry with
    | error bad => simp [Except.bind]
    | ok e => cases e <;> cases normalize slices <;> simp [Except.bind, Except.map]

namespace Snapshot

variable {s : Snapshot} {known : Option UInt32}

lemma isVoid_iff : s.IsVoid ↔ normalize s.slices = .ok [] := by
  rw [normalize_eq_nil_iff]
  simp only [Slice.entry_eq_none_iff]
  rfl

/-- When a void snapshot is applied. -/
lemma admitted?_eq_nil_iff :
    s.admitted? known = some [] ↔
      s.IsVoid ∧ (s.slices = [] → s.isUpdate = true ∧ s.isOfRestart known = false) := by
  rw [isVoid_iff, ← List.isEmpty_iff]
  unfold admitted?
  cases s.slices.isEmpty <;> cases s.isOfRestart known <;> cases s.isUpdate <;>
    cases normalize s.slices <;> simp [Except.toOption]

/-- No slices at all are not applied where they should not clear the configuration. -/
lemma admitted?_of_nil (empty : s.slices = [])
    (doubtful : s.isUpdate = false ∨ s.isOfRestart known = true) : s.admitted? known = none := by
  unfold admitted?
  rw [if_pos]
  rw [empty]
  rcases doubtful with update | restart
  · rw [update]
    exact Bool.or_true _
  · rw [restart]
    rfl

end Snapshot

/-! ### Snapshots that clear the configuration -/

namespace Session

variable {x : Session} {s : Snapshot}

/-- The configuration is cleared by an empty list alone. -/
lemma cleared_iff (knows : x.feed.Knows) (full : x.board.store ≠ .empty) :
    (x.take s).board.store = .empty ↔ s.admitted? x.counter = some [] := by
  rw [board_take]
  cases s.admitted? x.counter with
  | none => simpa using full
  | some list =>
    rw [Option.elim_some, knows.store_apply, SliceConfig.ofWire_eq_empty_iff, Option.some.injEq]

/-- A void snapshot that should not clear the configuration leaves the board alone only if it has
no slices, or there is nothing to clear. -/
lemma board_take_of_isVoid (knows : x.feed.Knows) (void : s.IsVoid)
    (doubtful : s.isUpdate = false ∨ s.isOfRestart x.counter = true) :
    (x.take s).board = x.board ↔ s.slices = [] ∨ x.board.store = .empty := by
  rw [board_take]
  by_cases empty : s.slices = []
  · rw [Snapshot.admitted?_of_nil empty doubtful]
    exact iff_of_true rfl (.inl empty)
  · have admitted : s.admitted? x.counter = some [] :=
      Snapshot.admitted?_eq_nil_iff.mpr ⟨void, fun nil => absurd nil empty⟩
    rw [admitted, Option.elim_some, or_iff_right empty]
    exact Feed.Knows.board_apply_nil knows

end Session

/-! ### Plays in which the configuration is cleared -/

namespace Play

variable {x : Play} {t : Turn}

/-- A turn delivers a void snapshot that may clear the configuration: one with slices, or one that
was sent because the configuration changed and does not come from a restarted service. -/
def Clears (x : Play) (t : Turn) : Prop :=
  ∃ s, (x.step t).delivered = x.delivered ++ [s] ∧ s.IsVoid ∧
    (s.slices = [] → s.isUpdate = true ∧ s.isOfRestart x.session.counter = false)

lemma not_clears (delivered : (x.step t).delivered = x.delivered) : ¬ x.Clears t := by
  rintro ⟨s, more, -⟩
  simpa using delivered.symm.trans more

lemma Sound.clears_iff (sound : x.Sound) (full : x.board.store ≠ .empty) (t : Turn) :
    (x.step t).board.store = .empty ↔ x.Clears t := by
  obtain ⟨takes, -⟩ := takes sound.fits t
  generalize step : x.step t = y at takes
  cases takes with
  | aside aside => exact iff_of_false full (not_clears (step ▸ aside.delivered))
  | read => exact iff_of_false full (not_clears (step ▸ rfl))
  | snapshot s session published delivered =>
    have board : y.board = (x.session.take s).board := congrArg Session.board session
    rw [board, Session.cleared_iff sound.knows full, Snapshot.admitted?_eq_nil_iff]
    constructor
    · exact fun clears => ⟨s, step ▸ delivered, clears⟩
    · rintro ⟨s', delivered', clears⟩
      rw [step, delivered] at delivered'
      obtain rfl : s = s' := by simpa using delivered'
      exact clears

/-- A configuration that was lost was cleared by some turn. -/
lemma Sound.exists_clears (sound : x.Sound) (full : x.board.store ≠ .empty) {turns : List Turn}
    (lost : (x.after turns).board.store = .empty) :
    ∃ earlier t later, turns = earlier ++ t :: later ∧ (x.after earlier).Clears t := by
  -- The first turn behind which the store is empty is the one that clears it.
  induction turns generalizing x with
  | nil => exact absurd lost full
  | cons t turns ih =>
    by_cases cleared : (x.step t).board.store = .empty
    · exact ⟨[], t, turns, rfl, (sound.clears_iff full t).mp cleared⟩
    · obtain ⟨earlier, u, later, rfl, clears⟩ := ih (sound.step t) cleared lost
      exact ⟨t :: earlier, u, later, rfl, clears⟩

/-- How the configuration is cleared. -/
structure Clearing (x : Play) : Prop where
  /-- A void snapshot that should not clear the configuration changes neither the store nor the
  channel if it has no slices, or nothing is in the store. Otherwise it does. -/
  guarded : ∀ s : Snapshot, s.IsVoid →
    (s.isUpdate = false ∨ s.isOfRestart x.session.counter = true) →
      ((x.session.take s).board = x.board ↔ s.slices = [] ∨ x.board.store = .empty)
  /-- The turns that clear the configuration. -/
  clears_iff : x.board.store ≠ .empty → ∀ t, (x.step t).board.store = .empty ↔ x.Clears t
  /-- It is not lost in any other way. -/
  lost : x.board.store ≠ .empty → ∀ turns, (x.after turns).board.store = .empty →
    ∃ earlier t later, turns = earlier ++ t :: later ∧ (x.after earlier).Clears t

/-- At any time of any play, no slices at all clear the configuration only where they are meant to,
but slices that are all left out always do. -/
theorem clearing (sub : Subscription) (seed : SliceConfig) (script : ServiceScript) (period : Nat)
    (turns : List Turn) : Clearing ((ofScript sub seed script period).after turns) := by
  have sound : ((ofScript sub seed script period).after turns).Sound := Sound.ofScript.after turns
  constructor
  case guarded =>
    intro s void doubtful
    exact Session.board_take_of_isVoid sound.knows void doubtful
  case clears_iff => exact fun full t => sound.clears_iff full t
  case lost => exact fun full turns lost => sound.exists_clears full lost

/-- A slice is served, then a snapshot that was not sent because the configuration changed has one
slice, whose site has no network. -/
def sitelessScript : ServiceScript :=
  ⟨[], [], [some [
    (0, .snapshot ⟨[⟨"a", some ⟨"1", ""⟩, some ⟨"s", some ⟨"208", "93"⟩⟩⟩], 1, 1⟩),
    (0, .snapshot ⟨[⟨"b", some ⟨"1", ""⟩, some ⟨"s", none⟩⟩], 1, 0⟩)]]⟩

/-- A slice that is left out may cost the configuration, though nothing said that it changed. -/
theorem lost_to_siteless :
    let x := (ofScript ⟨42, "nssf-0"⟩ .empty sitelessScript 5000).after [.move, .move]
    let s : Snapshot := ⟨[⟨"b", some ⟨"1", ""⟩, some ⟨"s", none⟩⟩], 1, 0⟩
    (x.step .move).delivered = x.delivered ++ [s] ∧ s.IsVoid ∧ s.isUpdate = false ∧
      x.board.store.plmns = [⟨"208", "93"⟩] ∧ (x.step .move).board.store = .empty ∧
      x.published? .move = some [] := by
  refine ⟨rfl, ?_, rfl, rfl, rfl, rfl⟩
  simp [Snapshot.IsVoid]

end Play

end SliceStream

end SliceSelection
