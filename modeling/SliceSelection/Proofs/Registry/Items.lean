import SliceSelection.Proofs.Json.Keeping
import SliceSelection.Proofs.Json.Record
import SliceSelection.Registry.Patch

/-!
# Items that are read back

The text of an item of a patch leaves the value out where there is none, so that no two items share
a text. But a value that is null counts as absent where an item is read: an item with such a value
is read as one without, and no text at all is read as an item with it. Every other item is read
back, as deep as its value may nest.
-/

namespace SliceSelection.Registry

open Json

lemma PatchOperation.name_injective : Function.Injective name := by
  rintro ⟨⟩ ⟨⟩ <;> decide

lemma PatchOperation.lawful : Lawful toJson ofJson? :=
  .choice (by rintro ⟨⟩ <;> decide) name_injective

namespace PatchItem

/-- The item that a document holds. -/
def parse? (document : String) : Option PatchItem := (Json.parse? document).bind ofJson?

/-- The value, if there is one, has a text and is in the form in which values are kept. -/
def IsPlain (i : PatchItem) : Prop := ∀ j ∈ i.value, j.Writable ∧ j.Kept

/-- The value, if there is one, nests no deeper than it may. -/
def Fits (i : PatchItem) : Prop := ∀ j ∈ i.value, j.depth ≤ maxDepth

instance (i : PatchItem) : Decidable i.Fits :=
  inferInstanceAs (Decidable (∀ j ∈ i.value, j.depth ≤ maxDepth))

/-- The item, whose value is left out if it is null. -/
def withoutNull (i : PatchItem) : PatchItem :=
  match i.value with
  | some .null => { i with value := none }
  | _ => i

variable {i k : PatchItem}

/-- Nothing but the value changes. -/
lemma withoutNull_eq (i : PatchItem) : i.withoutNull = ⟨i.op, i.path, i.withoutNull.value⟩ := by
  unfold withoutNull
  split <;> rfl

lemma withoutNull_of_null (null : i.value = some .null) :
    i.withoutNull = { i with value := none } := by
  simp [withoutNull, null]

lemma withoutNull_of_ne_null (given : i.value ≠ some .null) : i.withoutNull = i := by
  unfold withoutNull
  split
  · next null => exact absurd null given
  · rfl

lemma withoutNull_eq_self_iff : i.withoutNull = i ↔ i.value ≠ some .null := by
  refine ⟨?_, withoutNull_of_ne_null⟩
  intro same null
  rw [withoutNull_of_null null] at same
  rw [← same] at null
  cases null

/-! ### Writing -/

lemma writable_toJson (plain : i.IsPlain) : i.toJson.Writable := by
  refine writable_record ?_
  simp only [List.forall_mem_cons, List.not_mem_nil, Option.mem_def]
  refine ⟨?_, ?_, ?_, by simp⟩
  · rintro _ ⟨⟩
    exact .string i.op.name
  · rintro _ ⟨⟩
    exact .string i.path
  · exact fun j given => (plain j given).1

lemma toJson_injective : Function.Injective toJson := by
  intro i k same
  obtain ⟨op, path, value⟩ := i
  obtain ⟨op', path', value'⟩ := k
  cases value <;> cases value' <;>
    simp [toJson, record, ofString, PatchOperation.toJson] at same
  · obtain ⟨name, rfl⟩ := same
    rw [PatchOperation.name_injective name]
  · obtain ⟨name, rfl, rfl⟩ := same
    rw [PatchOperation.name_injective name]

/-- No two items share a text. -/
lemma text_injective (plain : i.IsPlain) (plain' : k.IsPlain)
    (same : k.toJson.text = i.toJson.text) : k = i := by
  have read : some k.toJson = some i.toJson := by
    rw [← Json.parse?_text (writable_toJson plain'), same,
      Json.parse?_text (writable_toJson plain)]
  exact toJson_injective (Option.some.inj read)

/-! ### Reading -/

lemma exists_fields_toJson (i : PatchItem) :
    ∃ fs, i.toJson.fields? [⟨"op", false⟩, ⟨"path", false⟩, ⟨"value", false⟩] = some fs ∧
      fs.required "op" PatchOperation.ofJson? = some i.op ∧
      fs.required "path" text? = some i.path ∧ fs.get? "value" = i.value := by
  obtain ⟨fs, fields, get⟩ := @exists_fields [⟨"op", false⟩, ⟨"path", false⟩, ⟨"value", false⟩]
    [("op", some i.op.toJson), ("path", some (.ofString i.path)), ("value", i.value)]
    rfl (by decide)
  exact ⟨fs, fields, PatchOperation.lawful.required (get "op"), Lawful.text.required (get "path"),
    get "value"⟩

lemma optional_value {fs : Fields} (plain : i.IsPlain) (found : fs.get? "value" = i.value) :
    fs.optional "value" (keep? maxDepth) = if i.Fits then some i.withoutNull.value else none := by
  cases value : i.value with
  | none => simp [Fields.optional, found, value, Fits, withoutNull]
  | some j =>
    by_cases null : j = .null
    · subst null
      simp [Fields.optional, found, value, Fits, withoutNull, depth]
    · have same : i.withoutNull = i := withoutNull_of_ne_null (by simpa [value] using null)
      have kept := (plain j value).2.keep?_eq maxDepth
      rw [Fields.optional_of_ne_null (found.trans value) null, kept, same, value]
      by_cases fits : j.depth ≤ maxDepth <;> simp [fits, Fits, value]

lemma ofJson?_toJson (plain : i.IsPlain) :
    ofJson? i.toJson = if i.Fits then some i.withoutNull else none := by
  obtain ⟨fs, fields, op, path, found⟩ := exists_fields_toJson i
  simp only [ofJson?, fields, op, path, optional_value plain found, Option.bind_eq_bind,
    Option.bind_some, Option.pure_def]
  split
  · rw [Option.bind_some, ← withoutNull_eq]
  · rfl

/-- What is read as an item has a value that was kept, or none. -/
lemma of_ofJson? {j : Json} (read : ofJson? j = some i) : i.Fits ∧ i.value ≠ some .null := by
  simp only [ofJson?, Option.bind_eq_bind, Option.bind_eq_some_iff, Option.pure_def] at read
  obtain ⟨fs, -, op, -, path, -, value, given, same⟩ := read
  cases same
  cases found : fs.get? "value" with
  | none =>
    obtain rfl : none = value := by simpa [Fields.optional, found] using given
    simp [Fits]
  | some j =>
    by_cases null : j = .null
    · subst null
      obtain rfl : none = value := by simpa [Fields.optional, found] using given
      simp [Fits]
    · rw [Fields.optional_of_ne_null found null] at given
      obtain ⟨k, keeps, rfl⟩ := Option.map_eq_some_iff.mp given
      have fits := (kept_of_keep? keeps).2
      refine ⟨by simpa [Fits] using fits, ?_⟩
      intro same
      cases same
      exact null (eq_null_of_keep? keeps)

/-! ### Items and their texts -/

lemma parse?_text (plain : i.IsPlain) :
    parse? i.toJson.text = if i.Fits then some i.withoutNull else none := by
  rw [parse?, Json.parse?_text (writable_toJson plain), Option.bind_some, ofJson?_toJson plain]

lemma parse?_text_eq_self_iff (plain : i.IsPlain) :
    parse? i.toJson.text = some i ↔ i.Fits ∧ i.value ≠ some .null := by
  rw [parse?_text plain, ← withoutNull_eq_self_iff]
  split <;> simp_all

/-- What becomes of an item that is written and read. -/
structure Recovery (i : PatchItem) : Prop where
  /-- The text of an item is read unless the value nests too deep, and a null value is lost. -/
  parse : parse? i.toJson.text = if i.Fits then some i.withoutNull else none
  back_iff : i.Fits → (parse? i.toJson.text = some i ↔ i.value ≠ some .null)
  /-- No text at all is read as an item whose value is null or nests too deep. -/
  exists_iff : (∃ document, parse? document = some i) ↔ i.Fits ∧ i.value ≠ some .null
  /-- Items that differ have texts that differ. -/
  apart : ∀ k : PatchItem, k.IsPlain → k.toJson.text = i.toJson.text → k = i

/-- Every item is read back unless its value is null or nests too deep. -/
theorem recovery (i : PatchItem) (plain : i.IsPlain) : Recovery i where
  parse := parse?_text plain
  back_iff fits := by
    rw [parse?_text_eq_self_iff plain]
    exact and_iff_right fits
  exists_iff := by
    constructor
    · rintro ⟨document, read⟩
      obtain ⟨j, -, read⟩ := Option.bind_eq_some_iff.mp read
      exact of_ofJson? read
    · exact fun fine => ⟨i.toJson.text, (parse?_text_eq_self_iff plain).mpr fine⟩
  apart k plain' := text_injective plain plain'

/-- Null inside of a value is read back. -/
theorem recovery_nestedNull :
    let i : PatchItem := ⟨.replace, "/nfServices",
      some (.object [(some "a", .null), (some "b", .array [.null, .int 18446744073709551615])])⟩
    i.IsPlain ∧ i.Fits ∧ parse? i.toJson.text = some i := by
  intro i
  have plain : i.IsPlain := by
    rintro j ⟨⟩
    constructor
    · have items : ∀ j ∈ [Json.null, .int 18446744073709551615], j.Writable := by
        simpa using ⟨Writable.null, Writable.int (by decide) (by decide)⟩
      exact .object (by simp) (by simpa using ⟨Writable.null, Writable.array items⟩)
    · have items : ∀ j ∈ [Json.null, .int 18446744073709551615], j.Kept := by
        simpa using ⟨Kept.null, Kept.int _⟩
      refine .object ⟨by simp [keyOf], List.pairwise_pair.mpr (by decide)⟩ ?_
      simpa using ⟨Kept.null, Kept.array items⟩
  have fits : i.Fits := by decide
  exact ⟨plain, fits, ((recovery i plain).back_iff fits).mpr (by simp [i])⟩

/-- An item whose value is null is read as the item without a value, although their texts differ. -/
theorem lost_to_null :
    let i : PatchItem := ⟨.add, "", some .null⟩
    let k : PatchItem := ⟨.add, "", none⟩
    i.IsPlain ∧ i.Fits ∧ i.toJson.text = "\x7b\"op\":\"add\",\"path\":\"\",\"value\":null\x7d" ∧
      i.toJson.text ≠ k.toJson.text ∧ parse? i.toJson.text = some k ∧
      parse? k.toJson.text = some k ∧ i ≠ k := by
  intro i k
  have plain : i.IsPlain := by
    rintro j ⟨⟩
    exact ⟨.null, .null⟩
  have plain' : k.IsPlain := by simp [IsPlain, k]
  have differ : i ≠ k := by simp [i, k]
  refine ⟨plain, by decide, by decide, ?_, ?_, ?_, differ⟩
  · exact fun same => differ (text_injective plain' plain same)
  · rw [parse?_text plain, if_pos (by decide)]
    rfl
  · rw [parse?_text plain', if_pos (by decide)]
    rfl

end PatchItem

end SliceSelection.Registry
