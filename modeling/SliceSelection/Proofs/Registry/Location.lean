import SliceSelection.Proofs.Text.Substring
import SliceSelection.Registry.Identity

/-!
# Identities read back from addresses

The address of a resource is cut at the first marker and at the last slash, so an identity is read
back from its own address if and only if neither cut falls elsewhere. An identity that was read
from any address is of this kind.
-/

namespace SliceSelection.Registry.Identity

/-- The parts of an identity can be told apart in its address. -/
structure IsLegible (i : Identity) : Prop where
  named : i.instanceId ≠ ""
  undivided : '/' ∉ i.instanceId.toList
  unmarked : ¬"/nnrf-nfm/".toList <:+: i.registry.toList
  /-- A marker can also begin in the base address and end behind it. -/
  unended : ¬"/nnrf-nfm".toList <:+ i.registry.toList

variable {i : Identity} {uri : String} {base : List Char}

/-- Of the marker only the slash at its end begins another. -/
lemma marker_infix_iff :
    marker.toList <:+: base ++ marker.toList.dropLast ↔
      "/nnrf-nfm/".toList <:+: base ∨ "/nnrf-nfm".toList <:+ base := by
  have short : ¬marker.toList <:+: marker.toList.dropLast := by decide
  have cut : ∀ n ≤ 10, marker.toList.drop n <+: marker.toList.dropLast → n = 9 ∨ n = 10 := by
    decide
  rw [List.infix_append_iff]
  constructor
  · rintro (within | within | ⟨left, right, whole, ends, starts⟩)
    · exact .inl within
    · exact absurd within short
    · have part : left <+: marker.toList := ⟨right, whole.symm⟩
      have few : left.length ≤ 10 := part.length_le
      have left_eq : left = marker.toList.take left.length := by simp [whole]
      have right_eq : right = marker.toList.drop left.length := by simp [whole]
      rw [left_eq] at ends
      rw [right_eq] at starts
      rcases cut left.length few starts with nine | ten
      · rw [nine] at ends
        exact .inr ends
      · rw [ten] at ends
        exact .inl ends.isInfix
  · rintro (within | ends)
    · exact .inl within
    · exact .inr (.inr ⟨"/nnrf-nfm".toList, ['/'], rfl, ends, by decide⟩)

/-- A base address is found before the first marker if no marker begins in it. -/
lemma before?_marker_iff {back : List Char} :
    Text.before? marker.toList (base ++ (marker.toList ++ back)) = some base ↔
      ¬"/nnrf-nfm/".toList <:+: base ∧ ¬"/nnrf-nfm".toList <:+ base := by
  rw [Text.before?_append_iff (by decide), marker_infix_iff, not_or]

lemma ofUri?_eq_some_iff :
    ofUri? uri = some i ↔
      Text.before? marker.toList uri.toList = some i.registry.toList ∧
        Text.afterLast '/' uri.toList = i.instanceId.toList ∧ i.instanceId ≠ "" := by
  obtain ⟨registry, instanceId⟩ := i
  have nonempty : instanceId ≠ "" ↔ instanceId.toList ≠ [] := by
    rw [ne_eq, ne_eq, ← String.toList_inj, String.toList_empty]
  have read (cs : List Char) (s : String) : String.ofList cs = s ↔ cs = s.toList := by
    rw [← String.toList_inj, String.toList_ofList]
  rw [ofUri?, nonempty]
  cases before : Text.before? marker.toList uri.toList with
  | none => simp
  | some base =>
    cases last : Text.afterLast '/' uri.toList with
    | nil =>
      refine iff_of_false nofun ?_
      rintro ⟨-, none, named⟩
      exact named none.symm
    | cons c cs =>
      simp only [Option.some.injEq, mk.injEq, read]
      refine and_congr_right fun _ => ⟨fun same => ⟨same, ?_⟩, And.left⟩
      exact same ▸ List.cons_ne_nil c cs

lemma toList_uri :
    i.uri.toList = i.registry.toList ++
      (marker.toList ++ ("v1/nf-instances/".toList ++ i.instanceId.toList)) := by
  simp [uri, marker]

lemma ofUri?_uri_iff : ofUri? i.uri = some i ↔ i.IsLegible := by
  have last : i.uri.toList =
      (i.registry.toList ++ "/nnrf-nfm/v1/nf-instances".toList) ++ '/' :: i.instanceId.toList := by
    simp [uri]
  rw [ofUri?_eq_some_iff, toList_uri, before?_marker_iff, ← toList_uri, last,
    Text.afterLast_append_iff]
  constructor
  · rintro ⟨⟨unmarked, unended⟩, undivided, named⟩
    exact ⟨named, undivided, unmarked, unended⟩
  · rintro ⟨named, undivided, unmarked, unended⟩
    exact ⟨⟨unmarked, unended⟩, undivided, named⟩

/-- A base address that ends in a marker but for its slash is cut short. -/
example : ofUri? (Identity.uri ⟨"http://nrf/nnrf-nfm", "nf-1"⟩) = some ⟨"http://nrf", "nf-1"⟩ := by
  decide

/-- An identity that was read from an address can be read from its own. -/
lemma isLegible_of_ofUri? (h : ofUri? uri = some i) : i.IsLegible := by
  obtain ⟨before, last, named⟩ := ofUri?_eq_some_iff.mp h
  obtain ⟨back, whole⟩ := Text.append_prefix_of_before? before
  rw [← whole, List.append_assoc, before?_marker_iff] at before
  exact ⟨named, last ▸ Text.not_mem_afterLast, before.1, before.2⟩

/-- The address begins with the base address and the marker. -/
lemma prefix_of_ofUri? (h : ofUri? uri = some i) :
    (i.registry ++ "/nnrf-nfm/").toList <+: uri.toList := by
  rw [String.toList_append]
  exact Text.append_prefix_of_before? (ofUri?_eq_some_iff.mp h).1

/-- The address ends with the last slash and the identifier. -/
lemma suffix_of_ofUri? (h : ofUri? uri = some i) :
    ("/" ++ i.instanceId).toList <:+ uri.toList := by
  have slash : '/' ∈ uri.toList :=
    (prefix_of_ofUri? h).subset (by simp)
  have last := (ofUri?_eq_some_iff.mp h).2.1
  simpa [last] using Text.cons_afterLast_suffix slash

end SliceSelection.Registry.Identity
