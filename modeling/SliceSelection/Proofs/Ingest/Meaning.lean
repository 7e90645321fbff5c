import Mathlib.Data.List.Induction
import Mathlib.Tactic.Common
import SliceSelection.Proofs.Ingest.Grouping

/-!
# What a configuration list means

`IsDescribedBy` says which configuration a list means, without building it: the networks that are
mentioned, by their first entries, and under each of them the slices of all of its entries. Just one
configuration is meant by a list, and it is the one that is built. So the slices of a network depend
neither on the order of its entries nor on how they are spread over them.
-/

namespace SliceSelection

/-! ### What is said -/

/-- A slice of the list means the one of its type that has its differentiator, or the empty one
where it has none. -/
def WireSnssai.Means (w : WireSnssai) (s : Snssai) : Prop :=
  w.sst = s.sst ∧ (w.sd = some s.sd ∨ w.sd = none ∧ s.sd = "")

lemma WireSnssai.means_iff {w : WireSnssai} {s : Snssai} : w.Means s ↔ w.toSnssai = s := by
  obtain ⟨sst, sd⟩ := w
  obtain ⟨sst', sd'⟩ := s
  unfold Means toSnssai Snssai.ofOptionalSd
  cases sd <;> simp [eq_comm]

namespace WireEntry

/-- Some entry is one of a network. -/
def Mentioned (list : List WireEntry) (p : PlmnId) : Prop := ∃ e ∈ list, e.plmnId = p

/-- Some entry of a network lists a slice. -/
def Offered (list : List WireEntry) (p : PlmnId) (s : Snssai) : Prop :=
  ∃ e ∈ list, e.plmnId = p ∧ ∃ w ∈ e.slices, w.Means s

/-- The place of the first entry of a network. -/
def place (list : List WireEntry) (p : PlmnId) : Nat := list.findIdx (·.plmnId == p)

variable {list other : List WireEntry} {e : WireEntry} {p q : PlmnId} {s : Snssai}

lemma offered_cons :
    Offered (e :: list) p s ↔
      (e.plmnId = p ∧ ∃ w ∈ e.slices, w.Means s) ∨ Offered list p s := by
  simp [Offered]

lemma offered_append : Offered (list ++ other) p s ↔ Offered list p s ∨ Offered other p s := by
  simp [Offered, or_and_right, exists_or]

lemma offered_map_mk {parts : List (List WireSnssai)} :
    Offered (parts.map (mk q)) p s ↔ q = p ∧ ∃ w ∈ parts.flatten, w.Means s := by
  simp [Offered]
  tauto

lemma place_eq_idxOf (list : List WireEntry) (p : PlmnId) :
    place list p = (list.map (·.plmnId)).idxOf p := by
  rw [place, List.idxOf, List.findIdx_map]
  rfl

end WireEntry

/-- A configuration has just the networks that a list mentions, each once and by its first entry,
and keeps of each of them just the slices that its entries list. -/
structure SliceConfig.IsDescribedBy (c : SliceConfig) (list : List WireEntry) : Prop where
  mentioned : ∀ p, p ∈ c.plmns ↔ WireEntry.Mentioned list p
  nodup : c.plmns.Nodup
  ordered : c.plmns.Pairwise fun p q => WireEntry.place list p < WireEntry.place list q
  keys : ∀ p, p ∈ c.slices ↔ p ∈ c.plmns
  offered : ∀ p slices, c.slices[p]? = some slices →
    ∀ s, s ∈ slices ↔ WireEntry.Offered list p s

/-! ### The networks in order -/

namespace SliceConfig

variable {ps : List PlmnId}

lemma firstMentions_concat (ps : List PlmnId) (p : PlmnId) :
    firstMentions (ps ++ [p]) = mention (firstMentions ps) p := by
  simp [firstMentions_eq]

lemma pairwise_firstMentions :
    (firstMentions ps).Pairwise fun p q => ps.idxOf p < ps.idxOf q := by
  induction ps using List.reverseRecOn with
  | nil => exact .nil
  | append_singleton ps p ih =>
    -- What is put behind the others does not move them.
    have kept : (firstMentions ps).Pairwise fun q r =>
        (ps ++ [p]).idxOf q < (ps ++ [p]).idxOf r := by
      refine ih.imp_of_mem ?_
      intro q r hq hr lt
      rw [mem_firstMentions] at hq hr
      rwa [List.idxOf_append_of_mem hq, List.idxOf_append_of_mem hr]
    rw [firstMentions_concat, mention]
    split
    · exact kept
    · next unknown =>
      rw [mem_firstMentions] at unknown
      refine List.pairwise_append.mpr ⟨kept, List.pairwise_singleton _ p, ?_⟩
      intro q hq r hr
      rw [mem_firstMentions] at hq
      obtain rfl := List.mem_singleton.mp hr
      rw [List.idxOf_append_of_mem hq, List.idxOf_append_of_notMem unknown]
      have before := List.idxOf_lt_length_iff.mpr hq
      omega

/-! ### The configuration -/

open WireEntry (Mentioned Offered)

variable {c d : SliceConfig} {list other : List WireEntry} {p : PlmnId} {s : Snssai}

lemma plmns_ofWire (list : List WireEntry) :
    (ofWire list).plmns = (list.map (·.plmnId)).foldl mention [] := rfl

lemma mem_plmns_ofWire : p ∈ (ofWire list).plmns ↔ Mentioned list p := by
  simp [ofWire, Mentioned]

lemma serves_ofWire : (ofWire list).slices.serves p s = true ↔ Offered list p s := by
  unfold ofWire Offered
  rw [SliceMap.serves_ofEntries]
  simp [WireSnssai.means_iff]

lemma isDescribedBy_ofWire (list : List WireEntry) : (ofWire list).IsDescribedBy list where
  mentioned _ := mem_plmns_ofWire
  nodup := nodup_firstMentions
  ordered := by
    simp only [WireEntry.place_eq_idxOf]
    exact pairwise_firstMentions
  keys _ := mem_slices_ofWire
  offered p slices found s := by
    rw [← SliceMap.serves_of_getElem? found, serves_ofWire]

lemma IsDescribedBy.serves_iff (described : c.IsDescribedBy list) :
    c.slices.serves p s = true ↔ Offered list p s := by
  rw [SliceMap.serves_iff]
  constructor
  · rintro ⟨slices, found, mem⟩
    exact (described.offered p slices found s).mp mem
  · intro offered
    have key : p ∈ c.slices := by
      obtain ⟨e, mem, named, -⟩ := offered
      exact (described.keys p).mpr ((described.mentioned p).mpr ⟨e, mem, named⟩)
    obtain ⟨slices, found⟩ := SliceMap.mem_iff.mp key
    exact ⟨slices, found, (described.offered p slices found s).mpr offered⟩

/-- A list describes one configuration at most. -/
lemma IsDescribedBy.unique (first : c.IsDescribedBy list) (second : d.IsDescribedBy list) :
    c = d := by
  have members : ∀ p, p ∈ c.plmns ↔ p ∈ d.plmns := by
    intro p
    rw [first.mentioned, second.mentioned]
  have plmns : c.plmns = d.plmns := by
    -- Both have the same members, and both have them by their first entries.
    have perm := (List.perm_ext_iff_of_nodup first.nodup second.nodup).mpr members
    refine perm.eq_of_pairwise ?_ first.ordered second.ordered
    intro p q _ _ before behind
    omega
  have slices : c.slices = d.slices := by
    refine SliceMap.eq_of_serves (fun p => ?_) (fun p s => ?_)
    · rw [first.keys, second.keys, members]
    · rw [first.serves_iff, second.serves_iff]
  exact congrArg₂ SliceConfig.mk plmns slices

/-- A network has no slice if it is mentioned and no entry of it lists one. -/
lemma getElem?_ofWire_eq_empty_iff :
    (ofWire list).slices[p]? = some ∅ ↔
      Mentioned list p ∧ ∀ e ∈ list, e.plmnId = p → e.slices = [] := by
  have described := isDescribedBy_ofWire list
  constructor
  · intro bare
    have key : p ∈ (ofWire list).slices := SliceMap.mem_iff.mpr ⟨∅, bare⟩
    refine ⟨mem_plmns_ofWire.mp ((described.keys p).mp key), ?_⟩
    intro e mem named
    by_contra slices
    obtain ⟨w, rest, slices⟩ := List.exists_cons_of_ne_nil slices
    have offered : Offered list p w.toSnssai :=
      ⟨e, mem, named, w, by simp [slices], WireSnssai.means_iff.mpr rfl⟩
    have none := (described.offered p ∅ bare _).mpr offered
    simp at none
  · rintro ⟨mentioned, bare⟩
    have key : p ∈ (ofWire list).slices :=
      (described.keys p).mpr (mem_plmns_ofWire.mpr mentioned)
    obtain ⟨slices, found⟩ := SliceMap.mem_iff.mp key
    have empty : slices = ∅ := by
      refine Std.ExtTreeSet.ext_mem fun s => ?_
      rw [described.offered p slices found]
      constructor
      · rintro ⟨e, mem, named, w, listed, -⟩
        simp [bare e mem named] at listed
      · simp
    rw [found, empty]

/-! ### Lists that mean the same -/

/-- The map depends only on which networks are mentioned and on what is offered in them. -/
lemma slices_ofWire_congr (mentioned : ∀ p, Mentioned other p ↔ Mentioned list p)
    (offered : ∀ p s, Offered other p s ↔ Offered list p s) :
    (ofWire other).slices = (ofWire list).slices := by
  refine SliceMap.eq_of_serves (fun p => ?_) (fun p s => ?_)
  · rw [mem_slices_ofWire, mem_slices_ofWire, mem_plmns_ofWire, mem_plmns_ofWire, mentioned]
  · rw [serves_ofWire, serves_ofWire, offered]

lemma slices_ofWire_perm (perm : other.Perm list) :
    (ofWire other).slices = (ofWire list).slices := by
  refine slices_ofWire_congr (fun p => ?_) (fun p s => ?_)
  · simp only [Mentioned, perm.mem_iff]
  · simp only [Offered, perm.mem_iff]

variable {before after : List WireEntry} {e : WireEntry} {parts : List (List WireSnssai)}

/-- The slices of an entry may be spread over several entries of its network. -/
lemma ofWire_spread (nonempty : parts ≠ []) (whole : parts.flatten.Perm e.slices) :
    ofWire (before ++ parts.map (WireEntry.mk e.plmnId) ++ after) =
      ofWire (before ++ e :: after) := by
  have plmns : (ofWire (before ++ parts.map (WireEntry.mk e.plmnId) ++ after)).plmns =
      (ofWire (before ++ e :: after)).plmns := by
    obtain ⟨part, rest, rfl⟩ := List.exists_cons_of_ne_nil nonempty
    have networks : ((part :: rest).map (WireEntry.mk e.plmnId)).map (·.plmnId) =
        List.replicate (rest.length + 1) e.plmnId := by
      rw [List.map_map]
      exact List.map_const' ..
    rw [plmns_ofWire, List.map_append, List.map_append, networks, List.foldl_append,
      List.foldl_append, foldl_mention_replicate, plmns_ofWire, List.map_append, List.foldl_append]
    rfl
  have slices : (ofWire (before ++ parts.map (WireEntry.mk e.plmnId) ++ after)).slices =
      (ofWire (before ++ e :: after)).slices := by
    refine slices_ofWire_congr (fun p => ?_) (fun p s => ?_)
    · rw [← mem_plmns_ofWire, ← mem_plmns_ofWire, plmns]
    · simp only [WireEntry.offered_append, WireEntry.offered_cons, WireEntry.offered_map_mk,
        whole.mem_iff, or_assoc]
  exact congrArg₂ SliceConfig.mk plmns slices

/-! ### One pass -/

/-- Enter an entry: its network is put behind the others if it is no key yet. -/
def enter (c : SliceConfig) (e : WireEntry) : SliceConfig where
  plmns := if c.slices.contains e.plmnId then c.plmns else c.plmns ++ [e.plmnId]
  slices := c.slices.addSlices e.plmnId (e.slices.map (·.toSnssai))

/-- Where the networks are the keys, they stay so, and a network that is no key is not known. -/
lemma keys_enter (keys : ∀ p, p ∈ c.slices ↔ p ∈ c.plmns) :
    (c.enter e).plmns = mention c.plmns e.plmnId ∧
      ∀ p, p ∈ (c.enter e).slices ↔ p ∈ (c.enter e).plmns := by
  have plmns : (c.enter e).plmns = mention c.plmns e.plmnId := by
    unfold enter mention
    simp only [Std.ExtTreeMap.contains_iff_mem, keys]
  refine ⟨plmns, fun p => ?_⟩
  rw [plmns, mem_mention, ← keys, or_comm]
  exact SliceMap.mem_addSlices

lemma foldl_enter (keys : ∀ p, p ∈ c.slices ↔ p ∈ c.plmns) :
    list.foldl enter c =
      ⟨(list.map (·.plmnId)).foldl mention c.plmns,
        (list.map fun e => (e.plmnId, e.slices.map (·.toSnssai))).foldl
          (fun m e => m.addSlices e.1 e.2) c.slices⟩ := by
  induction list generalizing c with
  | nil => rfl
  | cons e list ih =>
    obtain ⟨plmns, keys'⟩ := keys_enter (e := e) keys
    rw [List.foldl_cons, ih keys', plmns]
    rfl

/-- The networks and the map may be built in one pass, in which the keys tell whether a network was
seen. -/
lemma ofWire_eq_foldl (list : List WireEntry) : ofWire list = list.foldl enter .empty := by
  rw [foldl_enter (by simp [empty])]
  rfl

/-! ### The meaning -/

/-- How a list and the configuration that it means belong together. -/
structure Meaning (list : List WireEntry) : Prop where
  /-- Just one configuration is described by the list. -/
  eq_ofWire_iff : ∀ c, c = ofWire list ↔ c.IsDescribedBy list
  onePass : ofWire list = list.foldl enter .empty
  /-- A network with empty entries is there, and its set is empty. -/
  bare_iff : ∀ p, (ofWire list).slices[p]? = some ∅ ↔
    Mentioned list p ∧ ∀ e ∈ list, e.plmnId = p → e.slices = []
  permuted : ∀ other : List WireEntry, other.Perm list →
    (ofWire other).slices = (ofWire list).slices
  /-- Spreading the slices of an entry over several entries in its place changes nothing, the order
  of the networks included. -/
  spread : ∀ before e after parts, list = before ++ e :: after → parts ≠ [] →
    parts.flatten.Perm e.slices →
      ofWire (before ++ parts.map (WireEntry.mk e.plmnId) ++ after) = ofWire list

theorem meaning (list : List WireEntry) : Meaning list where
  eq_ofWire_iff c := by
    constructor
    · rintro rfl
      exact isDescribedBy_ofWire list
    · intro described
      exact described.unique (isDescribedBy_ofWire list)
  onePass := ofWire_eq_foldl list
  bare_iff _ := getElem?_ofWire_eq_empty_iff
  permuted _ := slices_ofWire_perm
  spread before e after parts := by
    rintro rfl nonempty whole
    exact ofWire_spread nonempty whole

/-- A differentiator that is absent is the empty one, and a network without slices is a key. -/
example :
    let c := ofWire [⟨⟨"208", "93"⟩, [⟨1, none⟩]⟩, ⟨⟨"001", "01"⟩, []⟩,
      ⟨⟨"208", "93"⟩, [⟨1, some ""⟩, ⟨2, some "0a"⟩]⟩]
    c.plmns = [⟨"208", "93"⟩, ⟨"001", "01"⟩] ∧
      c.slices.entries = [(⟨"001", "01"⟩, []), (⟨"208", "93"⟩, [⟨1, ""⟩, ⟨2, "0a"⟩])] := by
  decide

end SliceConfig

end SliceSelection
