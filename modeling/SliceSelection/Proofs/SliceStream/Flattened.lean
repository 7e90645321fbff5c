import SliceSelection.Proofs.SliceStream.Clearing

/-!
# Lists that are streamed

A list is streamed slice by slice: each slice of each entry by itself, under the network of its
entry, its type in decimal and a differentiator that is absent as the empty one. Where every entry
has a slice nothing is lost by this, and what is streamed describes what the list does.
-/

namespace SliceSelection

/-! ### Entries taken apart -/

namespace SliceMap

variable {m : SliceMap} {p : PlmnId}

lemma addSlices_addSlices (first second : List Snssai) :
    (m.addSlices p first).addSlices p second = m.addSlices p (first ++ second) := by
  refine eq_of_serves (fun q => ?_) (fun q s => ?_)
  · rw [mem_addSlices, mem_addSlices, mem_addSlices]
    tauto
  · rw [serves_addSlices, serves_addSlices, serves_addSlices, List.mem_append]
    tauto

lemma foldl_addSlices_single (s : Snssai) (slices : List Snssai) :
    ((s :: slices).map fun t => (p, [t])).foldl (fun m e => m.addSlices e.1 e.2) m =
      m.addSlices p (s :: slices) := by
  induction slices generalizing m s with
  | nil => rfl
  | cons t slices ih =>
    calc _ = ((t :: slices).map fun t => (p, [t])).foldl (fun m e => m.addSlices e.1 e.2)
          (m.addSlices p [s]) := rfl
      _ = (m.addSlices p [s]).addSlices p (t :: slices) := ih t
      _ = m.addSlices p (s :: t :: slices) := addSlices_addSlices ..

end SliceMap

namespace WireEntry

/-- The slices of a list, each with the network of its entry. -/
def flatten (list : List WireEntry) : List (PlmnId × WireSnssai) :=
  list.flatMap fun e => e.slices.map (e.plmnId, ·)

variable {list : List WireEntry}

lemma foldl_mention_flatten (full : ∀ e ∈ list, e.slices ≠ []) (seen : List PlmnId) :
    ((flatten list).map (·.1)).foldl SliceConfig.mention seen =
      (list.map (·.plmnId)).foldl SliceConfig.mention seen := by
  induction list generalizing seen with
  | nil => rfl
  | cons e list ih =>
    rw [List.forall_mem_cons] at full
    obtain ⟨s, slices, some⟩ := List.exists_cons_of_ne_nil full.1
    have networks : (e.slices.map (e.plmnId, ·)).map Prod.fst =
        List.replicate (slices.length + 1) e.plmnId := by
      rw [some, List.map_map]
      exact List.map_const' ..
    rw [flatten, List.flatMap_cons, List.map_append, List.foldl_append, networks,
      SliceConfig.foldl_mention_replicate]
    exact ih full.2 _

lemma foldl_addSlices_flatten (full : ∀ e ∈ list, e.slices ≠ []) (m : SliceMap) :
    ((flatten list).map fun i => (i.1, [i.2.toSnssai])).foldl (fun m e => m.addSlices e.1 e.2) m =
      (list.map fun e => (e.plmnId, e.slices.map (·.toSnssai))).foldl
        (fun m e => m.addSlices e.1 e.2) m := by
  induction list generalizing m with
  | nil => rfl
  | cons e list ih =>
    rw [List.forall_mem_cons] at full
    obtain ⟨s, slices, some⟩ := List.exists_cons_of_ne_nil full.1
    have singles : (e.slices.map (e.plmnId, ·)).map (fun i => (i.1, [i.2.toSnssai])) =
        (s.toSnssai :: slices.map (·.toSnssai)).map fun t => (e.plmnId, [t]) := by
      simp [some]
    rw [flatten, List.flatMap_cons, List.map_append, List.foldl_append, singles,
      SliceMap.foldl_addSlices_single, ← List.map_cons, ← some]
    exact ih full.2 _

/-- The entry of a slice by itself, an empty differentiator as an absent one. -/
def single (i : PlmnId × WireSnssai) : WireEntry :=
  ⟨i.1, [⟨i.2.sst, if (i.2.sd.getD "").isEmpty then none else some (i.2.sd.getD "")⟩]⟩

lemma map_toSnssai_single (i : PlmnId × WireSnssai) :
    (single i).slices.map (·.toSnssai) = [i.2.toSnssai] := by
  unfold single WireSnssai.toSnssai Snssai.ofOptionalSd
  split <;> simp_all

/-- A list may be taken apart if all of its entries have slices. -/
lemma ofWire_map_single (full : ∀ e ∈ list, e.slices ≠ []) :
    SliceConfig.ofWire ((flatten list).map single) = .ofWire list := by
  unfold SliceConfig.ofWire SliceConfig.firstMentions SliceMap.ofEntries
  simp only [List.map_map, Function.comp_def, map_toSnssai_single]
  rw [← foldl_addSlices_flatten full]
  exact congrArg (SliceConfig.mk · _) (foldl_mention_flatten full [])

end WireEntry

namespace SliceStream

variable {list : List WireEntry} {pairs : List (PlmnId × WireSnssai)} {slices : List Slice}

/-! ### Slices that are streamed -/

/-- Every type is read off its decimal digits. -/
lemma parseSst_toString :
    ∀ n < 256, parseSst (Text.trimBlanks (toString n).toList) = .ok (.ofNat n) := by
  decide +kernel

/-- Slices are streamed, each under its network, and between them others that lack a network or an
identifier. -/
inductive Streamed : List (PlmnId × WireSnssai) → List Slice → Prop where
  | done : Streamed [] []
  | slice {p : PlmnId} {s : WireSnssai} {pairs : List (PlmnId × WireSnssai)} {slices : List Slice}
    (name site : String) (rest : Streamed pairs slices) :
    Streamed ((p, s) :: pairs)
      (⟨name, some ⟨toString s.sst.toNat, s.sd.getD ""⟩, some ⟨site, some p⟩⟩ :: slices)
  | useless {i : Slice} {pairs : List (PlmnId × WireSnssai)} {slices : List Slice}
    (lacks : i.nssai = none ∨ i.site.bind (·.plmn) = none) (rest : Streamed pairs slices) :
    Streamed pairs (i :: slices)

lemma Streamed.normalize_eq (streamed : Streamed pairs slices) :
    normalize slices = .ok (pairs.map WireEntry.single) := by
  induction streamed with
  | done => rfl
  | @slice p s _ _ name site _ ih =>
    have entry :
        Slice.entry ⟨name, some ⟨toString s.sst.toNat, s.sd.getD ""⟩, some ⟨site, some p⟩⟩ =
          .ok (some (.single (p, s))) := by
      simp only [Slice.entry, Option.bind_some, parseSst_toString _ s.sst.toNat_lt]
      simp [WireEntry.single]
    rw [normalize_cons, entry, ih]
    rfl
  | useless lacks _ ih =>
    rw [normalize_cons, Slice.entry_eq_none_iff.mpr lacks, ih]
    rfl

end SliceStream

end SliceSelection
