import SliceSelection.Json.Record
import SliceSelection.Proofs.Json.Document

/-!
# Reading records back

`Lawful write read` says that values are read back from what is written, which has a text and is
not null. Texts, integers and lists are, and a record is if its fields are: a field that is left out
has no value behind its name, and no other field is found there.
-/

namespace SliceSelection.Json

lemma Fields.optional_of_ne_null {α : Type} {read : Json → Option α} {fs : Fields} {name : String}
    {j : Json} (found : fs.get? name = some j) (given : j ≠ .null) :
    fs.optional name read = (read j).map some := by
  unfold Fields.optional
  rw [found]
  cases j with
  | null => exact absurd rfl given
  | _ => rfl

/-- What is written of a value is read as that value. -/
structure Lawful {α : Type} (write : α → Json) (read : Json → Option α) : Prop where
  back : ∀ x, read (write x) = some x
  /-- A value that is there is not taken for an absent one. -/
  given : ∀ x, write x ≠ .null
  writable : ∀ x, (write x).Writable

namespace Lawful

variable {α : Type} {write : α → Json} {read : Json → Option α}

lemma text : Lawful ofString text? := ⟨fun _ => rfl, nofun, .string⟩

lemma list (items : Lawful write read) : Lawful (ofList write) (list? read) where
  back xs := by
    induction xs with
    | nil => rfl
    | cons x xs ih =>
      simp only [ofList, list?, List.map_cons, List.mapM_cons] at ih ⊢
      simp [items.back, ih]
  given := nofun
  writable xs := by
    refine .array ?_
    simpa using fun x _ => items.writable x

/-- Integers of a width that 64 bits hold. -/
lemma integer {toInt : α → Int} {ofInt : Int → α} {low high : Int} (back : ∀ x, ofInt (toInt x) = x)
    (within : ∀ x, low ≤ toInt x ∧ toInt x ≤ high) (ge : intMin ≤ low) (le : high ≤ intMax) :
    Lawful (fun x => .int (toInt x)) fun j => (intWithin? low high j).map ofInt where
  back x := by simp [intWithin?, within, back]
  given := nofun
  writable x := by
    obtain ⟨above, below⟩ := within x
    exact .int (Int.le_trans ge above) (Int.le_trans below le)

lemma uint8 : Lawful (fun n : UInt8 => ofNat n.toNat) uint8? :=
  integer (by simp) (fun n => by have := n.toNat_lt; omega) (by decide) (by decide)

lemma uint16 : Lawful (fun n : UInt16 => ofNat n.toNat) uint16? :=
  integer (by simp) (fun n => by have := n.toNat_lt; omega) (by decide) (by decide)

lemma uint32 : Lawful (fun n : UInt32 => ofNat n.toNat) uint32? :=
  integer (by simp) (fun n => by have := n.toNat_lt; omega) (by decide) (by decide)

lemma int32 : Lawful (fun n : Int32 => .int n.toInt) int32? :=
  integer (by simp) (fun n => ⟨n.le_toInt, by have := n.toInt_lt; omega⟩) (by decide) (by decide)

/-- Choices whose names differ. -/
lemma choice {all : List α} {name : α → String} (mem : ∀ x, x ∈ all)
    (injective : Function.Injective name) :
    Lawful (fun x => ofString (name x))
      fun j => j.choice?.bind fun n => all.find? (name · == n) where
  back x := by
    change all.find? (name · == name x) = some x
    cases found : all.find? (name · == name x) with
    | none => simpa using List.find?_eq_none.mp found x (mem x)
    | some y =>
      have same : name y = name x := by simpa using List.find?_some found
      rw [injective same]
  given := nofun
  writable x := .string _

/-! ### Fields -/

variable {fs : Fields} {name : String}

lemma required {x : α} (law : Lawful write read) (found : fs.get? name = some (write x)) :
    fs.required name read = some x := by
  simp [Fields.required, found, law.back]

lemma optional {x : Option α} (law : Lawful write read) (found : fs.get? name = x.map write) :
    fs.optional name read = some x := by
  cases x with
  | none => simp [Fields.optional, found]
  | some x => rw [Fields.optional_of_ne_null found (law.given x), law.back, Option.map_some]

lemma given_default {x default : α} (law : Lawful write read)
    (found : fs.get? name = some (write x)) : fs.defaulting name default read = some x := by
  simp [Fields.defaulting, found, law.back]

/-- A field may be left out where its value is the default. -/
lemma defaulting {x default : α} (law : Lawful write read) {absent : Prop} [Decidable absent]
    (found : fs.get? name = if absent then none else some (write x)) (same : absent → x = default) :
    fs.defaulting name default read = some x := by
  by_cases h : absent
  · simp [Fields.defaulting, found, h, same h]
  · exact law.given_default (found.trans (if_neg h))

end Lawful

/-! ### Records -/

variable {α : Type} {schema : List Field} {members : List (String × Option Json)}

lemma exists_collect (nodup : (members.map Prod.fst).Nodup)
    (known : ∀ m ∈ members, schema.any (·.name == m.1) = true) :
    ∃ fs : Fields,
      collect schema (members.filterMap fun m => m.2.map fun v => (some m.1, v)) = some fs ∧
        ∀ name, fs.get? name = (members.lookup name).join := by
  induction members with
  | nil => exact ⟨[], rfl, fun _ => rfl⟩
  | cons m members ih =>
    obtain ⟨name, v⟩ := m
    rw [List.map_cons, List.nodup_cons] at nodup
    rw [List.forall_mem_cons] at known
    obtain ⟨fs, collected, get⟩ := ih nodup.2 known.2
    have absent : members.lookup name = none := by
      rw [List.lookup_eq_none_iff]
      intro m mem
      rw [bne_iff_ne]
      rintro rfl
      exact nodup.1 (List.mem_map.mpr ⟨m, mem, rfl⟩)
    have fresh : fs.lookup name = none := (get name).trans (by rw [absent]; rfl)
    cases v with
    | none =>
      refine ⟨fs, collected, ?_⟩
      intro other
      rw [get, List.lookup_cons]
      split
      · next same => rw [beq_iff_eq.mp same, absent]; rfl
      · rfl
    | some v =>
      have first : fs.any (·.1 == name) = false := by
        rw [List.lookup_eq_none_iff] at fresh
        rw [List.any_eq_false]
        intro f mem
        have ne := fresh f mem
        grind
      refine ⟨(name, v) :: fs, ?_, ?_⟩
      · simp [collect, collected, known.1, first]
      · intro other
        rw [Fields.get?, List.lookup_cons, List.lookup_cons]
        split
        · rfl
        · exact get other

/-- The fields of a record are found behind their names, those that were left out excepted. -/
lemma exists_fields (names : members.map Prod.fst = schema.map Field.name)
    (nodup : (schema.map Field.name).Nodup) :
    ∃ fs, (record members).fields? schema = some fs ∧
      ∀ name, fs.get? name = (members.lookup name).join := by
  apply exists_collect (names ▸ nodup)
  intro m mem
  have : m.1 ∈ schema.map Field.name := names ▸ List.mem_map_of_mem mem
  simpa using this

lemma writable_record (all : ∀ m ∈ members, ∀ j ∈ m.2, j.Writable) :
    (record members).Writable := by
  refine .object ?_ ?_
  · rintro m mem
    obtain ⟨m, -, given⟩ := List.mem_filterMap.mp mem
    obtain ⟨j, -, rfl⟩ := Option.map_eq_some_iff.mp given
    exact ⟨m.1, rfl⟩
  · rintro m mem
    obtain ⟨m, known, given⟩ := List.mem_filterMap.mp mem
    obtain ⟨j, there, rfl⟩ := Option.map_eq_some_iff.mp given
    exact all m known j there

/-- A record is lawful if its fields are read back wherever they are found. -/
lemma Lawful.record {β : Type} {members : β → List (String × Option Json)}
    {body : Fields → Option β}
    (names : ∀ x, (members x).map Prod.fst = schema.map Field.name)
    (nodup : (schema.map Field.name).Nodup)
    (back : ∀ x fs, (∀ name, Fields.get? fs name = ((members x).lookup name).join) →
      body fs = some x)
    (writable : ∀ x, ∀ m ∈ members x, ∀ j ∈ m.2, j.Writable) :
    Lawful (fun x => Json.record (members x)) fun j => (j.fields? schema).bind body where
  back x := by
    obtain ⟨fs, fields, get⟩ := exists_fields (names x) nodup
    rw [fields]
    exact back x fs get
  given := nofun
  writable x := writable_record (writable x)

end SliceSelection.Json
