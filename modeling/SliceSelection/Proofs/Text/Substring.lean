import Mathlib.Data.List.DropRight
import Mathlib.Data.List.Infix
import SliceSelection.Text.Substring

/-!
# Where a text is cut

A text is cut before the first occurrence of another and behind the last of a character. Both cuts
are undone by writing the parts side by side, unless what stands there occurs once more on the
wrong side of the cut.
-/

namespace SliceSelection.Text

variable {needle cs front back : List Char} {c : Char}

/-! ### The first occurrence -/

lemma before?_of_start (starts : needle <+: cs) : before? needle cs = some [] := by
  cases cs with
  | nil =>
    obtain rfl := List.prefix_nil.mp starts
    rfl
  | cons c cs => rw [before?, if_pos (List.isPrefixOf_iff_prefix.mpr starts)]

lemma before?_cons (later : ¬needle <+: c :: cs) :
    before? needle (c :: cs) = (before? needle cs).map (c :: ·) := by
  rw [before?, if_neg (mt List.isPrefixOf_iff_prefix.mp later)]

/-- What stands before the first occurrence is followed by it. -/
lemma append_prefix_of_before? (h : before? needle cs = some front) : front ++ needle <+: cs := by
  induction cs generalizing front with
  | nil => simp_all [before?]
  | cons c cs ih =>
    by_cases starts : needle <+: c :: cs
    · rw [before?_of_start starts] at h
      cases h
      exact starts
    · rw [before?_cons starts, Option.map_eq_some_iff] at h
      obtain ⟨front, before, rfl⟩ := h
      exact List.cons_prefix_cons.mpr ⟨rfl, ih before⟩

/-- A text that stands behind another is found there unless it occurs earlier, and then it ends
within itself. -/
lemma before?_append_iff (nonempty : needle ≠ []) :
    before? needle (front ++ (needle ++ back)) = some front ↔
      ¬needle <:+: front ++ needle.dropLast := by
  have shorter : needle.dropLast.length < needle.length := by
    rw [List.length_dropLast]
    exact Nat.pred_lt (by simpa using nonempty)
  induction front with
  | nil =>
    refine iff_of_true (before?_of_start (List.prefix_append _ _)) fun within => ?_
    exact absurd within.length_le (Nat.not_le.mpr shorter)
  | cons c front ih =>
    -- Whether it occurs at the beginning shows in the text up to its last character.
    have first : needle <+: c :: (front ++ (needle ++ back)) ↔
        needle <+: c :: (front ++ needle.dropLast) := by
      have upto : c :: (front ++ needle.dropLast) <+: c :: (front ++ (needle ++ back)) := by
        rw [List.cons_prefix_cons, List.prefix_append_right_inj]
        exact ⟨rfl, (List.dropLast_prefix _).trans (List.prefix_append _ _)⟩
      refine ⟨fun starts => List.prefix_of_prefix_length_le starts upto ?_, (·.trans upto)⟩
      simp only [List.length_cons, List.length_append, List.length_dropLast]
      omega
    rw [List.cons_append, List.cons_append, List.infix_cons_iff, ← first, not_or]
    by_cases starts : needle <+: c :: (front ++ (needle ++ back))
    · simp [before?_of_start starts, starts]
    · simp [before?_cons starts, starts, ih]

lemma isSome_before?_iff : (before? needle cs).isSome ↔ needle <:+: cs := by
  induction cs with
  | nil => simp [before?]
  | cons c cs ih =>
    rw [before?, List.infix_cons_iff, ← List.isPrefixOf_iff_prefix, ← ih]
    by_cases first : needle.isPrefixOf (c :: cs) <;> simp [first]

lemma occurs_iff {needle s : String} : occurs needle s ↔ needle.toList <:+: s.toList :=
  isSome_before?_iff

/-! ### The last occurrence -/

lemma afterLast_append (absent : c ∉ back) : afterLast c (front ++ c :: back) = back := by
  have reversed : (front ++ c :: back).reverse = back.reverse ++ c :: front.reverse := by simp
  have others : ∀ d ∈ back.reverse, (d ≠ c : Bool) = true := by
    intro d mem
    rw [decide_eq_true_eq]
    rintro rfl
    exact absent (List.mem_reverse.mp mem)
  rw [afterLast, reversed, List.takeWhile_append_of_pos others]
  simp

lemma not_mem_afterLast : c ∉ afterLast c cs := by
  intro mem
  have other : c ∈ cs.rtakeWhile (· ≠ c) := mem
  simpa using List.mem_rtakeWhile_imp other

lemma afterLast_append_iff : afterLast c (front ++ c :: back) = back ↔ c ∉ back :=
  ⟨fun same => same ▸ not_mem_afterLast, afterLast_append⟩

/-- The last of a character that occurs stands before what is behind it. -/
lemma cons_afterLast_suffix (occurs : c ∈ cs) : c :: afterLast c cs <:+ cs := by
  obtain ⟨back, front, reversed, absent⟩ :=
    List.eq_append_cons_of_mem (List.mem_reverse.mpr occurs)
  have whole : cs = front.reverse ++ c :: back.reverse := by
    rw [← List.reverse_reverse cs, reversed]
    simp
  rw [whole, afterLast_append (mt List.mem_reverse.mp absent)]
  exact List.suffix_append _ _

end SliceSelection.Text
