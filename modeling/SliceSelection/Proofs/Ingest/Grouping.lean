import Mathlib.Data.List.Nodup
import SliceSelection.Ingest.WireList

/-!
# Grouping by network

Networks are listed by their first mention, and slices are collected under the network of their
entry. Both ways every network that is mentioned is kept, one without slices too, and none is made
up: the networks that a list describes are the keys of the map that it describes.
-/

namespace SliceSelection

namespace SliceConfig

variable {p : PlmnId} {ps seen : List PlmnId}

/-! ### The networks -/

/-- Put a network behind those that were seen, unless it is among them. -/
def mention (seen : List PlmnId) (p : PlmnId) : List PlmnId :=
  if p ∈ seen then seen else seen ++ [p]

lemma firstMentions_eq (ps : List PlmnId) : firstMentions ps = ps.foldl mention [] := rfl

lemma mem_mention {q : PlmnId} : p ∈ mention seen q ↔ p ∈ seen ∨ p = q := by
  unfold mention
  split
  · next known => exact ⟨.inl, fun either => either.elim id fun same => same ▸ known⟩
  · simp

lemma nodup_mention (nodup : seen.Nodup) : (mention seen p).Nodup := by
  unfold mention
  split
  · exact nodup
  · next unknown => exact nodup.append (List.nodup_singleton p) (by simpa using unknown)

lemma mem_foldl_mention : p ∈ ps.foldl mention seen ↔ p ∈ seen ∨ p ∈ ps := by
  induction ps generalizing seen with
  | nil => simp
  | cons q ps ih => rw [List.foldl_cons, ih, mem_mention, List.mem_cons, or_assoc]

lemma nodup_foldl_mention (nodup : seen.Nodup) : (ps.foldl mention seen).Nodup := by
  induction ps generalizing seen with
  | nil => exact nodup
  | cons q ps ih => exact ih (nodup_mention nodup)

lemma mention_mention : mention (mention seen p) p = mention seen p :=
  if_pos (mem_mention.mpr (.inr rfl))

/-- A network that is mentioned several times in a row is mentioned. -/
lemma foldl_mention_replicate (n : Nat) :
    (List.replicate (n + 1) p).foldl mention seen = mention seen p := by
  induction n with
  | zero => rfl
  | succ n ih => rw [List.replicate_succ', List.foldl_concat, ih, mention_mention]

@[simp] lemma mem_firstMentions : p ∈ firstMentions ps ↔ p ∈ ps := by
  rw [firstMentions_eq, mem_foldl_mention]
  simp

lemma nodup_firstMentions : (firstMentions ps).Nodup := by
  rw [firstMentions_eq]
  exact nodup_foldl_mention List.nodup_nil

end SliceConfig

/-! ### The map -/

namespace SliceMap

variable {m : SliceMap} {p q : PlmnId} {entries : List (PlmnId × List Snssai)}

lemma mem_addSlices {slices : List Snssai} : p ∈ m.addSlices q slices ↔ p = q ∨ p ∈ m := by
  unfold addSlices
  rw [Std.ExtTreeMap.mem_insert, Std.LawfulEqCmp.compare_eq_iff_eq, eq_comm]

lemma mem_foldl_addSlices :
    p ∈ entries.foldl (fun m e => m.addSlices e.1 e.2) m ↔ p ∈ m ∨ p ∈ entries.map (·.1) := by
  induction entries generalizing m with
  | nil => simp
  | cons e entries ih =>
    rw [List.foldl_cons, ih, mem_addSlices, List.map_cons, List.mem_cons]
    tauto

@[simp] lemma mem_ofEntries : p ∈ ofEntries entries ↔ p ∈ entries.map (·.1) := by
  unfold ofEntries
  rw [mem_foldl_addSlices]
  simp

/-! ### The slices of a network -/

variable {n : SliceMap} {s : Snssai} {slices : List Snssai}

lemma getElem?_addSlices :
    (m.addSlices q slices)[p]? =
      if q = p then some ((m[p]?.getD ∅).insertMany slices) else m[p]? := by
  unfold addSlices
  rw [Std.ExtTreeMap.getElem?_insert]
  by_cases same : q = p
  · simp [same]
  · simp [same, Std.LawfulEqCmp.compare_eq_iff_eq]

lemma mem_iff : p ∈ m ↔ ∃ set, m[p]? = some set := by
  rw [Std.ExtTreeMap.mem_iff_isSome_getElem?, Option.isSome_iff_exists]

lemma serves_iff : m.serves p s = true ↔ ∃ set, m[p]? = some set ∧ s ∈ set := by
  unfold serves
  cases m[p]? <;> simp

/-- A network with a slice is a key. -/
lemma mem_of_serves (serves : m.serves p s = true) : p ∈ m := by
  obtain ⟨set, found, -⟩ := serves_iff.mp serves
  exact mem_iff.mpr ⟨set, found⟩

lemma serves_of_getElem? {set : SliceSet} (found : m[p]? = some set) :
    m.serves p s = true ↔ s ∈ set := by
  simp [serves, found]

lemma serves_addSlices :
    (m.addSlices q slices).serves p s = true ↔ m.serves p s = true ∨ q = p ∧ s ∈ slices := by
  rw [serves_iff, serves_iff, getElem?_addSlices]
  split
  · next same =>
    cases m[p]? <;> simp [same]
  · next other => simp [other]

lemma serves_foldl_addSlices :
    (entries.foldl (fun m e => m.addSlices e.1 e.2) m).serves p s = true ↔
      m.serves p s = true ∨ ∃ e ∈ entries, e.1 = p ∧ s ∈ e.2 := by
  induction entries generalizing m with
  | nil => simp
  | cons e entries ih =>
    rw [List.foldl_cons, ih, serves_addSlices, or_assoc]
    simp

lemma serves_ofEntries :
    (ofEntries entries).serves p s = true ↔ ∃ e ∈ entries, e.1 = p ∧ s ∈ e.2 := by
  unfold ofEntries
  rw [serves_foldl_addSlices]
  simp [serves]

/-- A map is told by its networks and by the slices that it serves in them. -/
lemma eq_of_serves (keys : ∀ p, p ∈ m ↔ p ∈ n)
    (serves : ∀ p s, m.serves p s = true ↔ n.serves p s = true) : m = n := by
  refine Std.ExtTreeMap.ext_getElem? fun p => ?_
  have key := keys p
  rw [mem_iff, mem_iff] at key
  cases left : m[p]? with
  | none =>
    cases right : n[p]? with
    | none => rfl
    | some there => simp [left, right] at key
  | some here =>
    cases right : n[p]? with
    | none => simp [left, right] at key
    | some there =>
      refine congrArg some (Std.ExtTreeSet.ext_mem fun s => ?_)
      rw [← serves_of_getElem? left, ← serves_of_getElem? right, serves]

end SliceMap

/-! ### The configuration of a list -/

namespace SliceConfig

variable {p : PlmnId} {list : List WireEntry}

lemma mem_slices_ofWire : p ∈ (ofWire list).slices ↔ p ∈ (ofWire list).plmns := by
  simp [ofWire]

lemma ofWire_eq_empty_iff : ofWire list = .empty ↔ list = [] := by
  constructor
  · intro empty
    cases list with
    | nil => rfl
    | cons e list =>
      have mentioned : e.plmnId ∈ (ofWire (e :: list)).plmns := by simp [ofWire]
      rw [empty] at mentioned
      cases mentioned
  · rintro rfl
    rfl

end SliceConfig

end SliceSelection
