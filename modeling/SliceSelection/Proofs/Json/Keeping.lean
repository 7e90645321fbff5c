import Mathlib.Tactic.Common
import SliceSelection.Json.Kept

/-!
# The form in which values are kept

A value is in the kept form if the members of each object in it are ordered by key, each key once,
if all of its literals stand for texts, and if its numbers fit into a double. What is kept is in
that form, and a value in that form is kept just as it is, unless it nests too deep.
-/

namespace SliceSelection.Json

/-! ### Depth -/

section Depth

variable {items : List Json} {members : List (Option String × Json)} {n : Nat}

mutual

/-- How many arrays and objects of a value stand inside of one another. -/
def depth : Json → Nat
  | .array items => itemsDepth items + 1
  | .object members => membersDepth members + 1
  | _ => 0

/-- How deep the deepest item nests. -/
def itemsDepth : List Json → Nat
  | [] => 0
  | j :: items => max (depth j) (itemsDepth items)

/-- How deep the deepest value of a member nests. -/
def membersDepth : List (Option String × Json) → Nat
  | [] => 0
  | (_, j) :: members => max (depth j) (membersDepth members)

end

lemma itemsDepth_le_iff : itemsDepth items ≤ n ↔ ∀ j ∈ items, j.depth ≤ n := by
  induction items with
  | nil => simp [itemsDepth]
  | cons j items ih => rw [itemsDepth, Nat.max_le, ih, List.forall_mem_cons]

lemma membersDepth_le_iff : membersDepth members ≤ n ↔ ∀ m ∈ members, m.2.depth ≤ n := by
  induction members with
  | nil => simp [membersDepth]
  | cons m members ih => rw [membersDepth, Nat.max_le, ih, List.forall_mem_cons]

end Depth

/-! ### Members -/

section Members

variable {members before : List (Option String × Json)} {key : String} {j : Json}

/-- The key of a member, or the empty text if its literal stands for none. -/
def keyOf (m : Option String × Json) : String := m.1.getD ""

/-- Members in the order of their keys, each of which is a text and stands there once. -/
structure Ordered (members : List (Option String × Json)) : Prop where
  keys : ∀ m ∈ members, m.1 = some (keyOf m)
  ascending : members.Pairwise fun m n => keyOf m < keyOf n

lemma insertMember_cons (other : Option String × Json) :
    insertMember key j (other :: members) =
      if key < keyOf other then (some key, j) :: other :: members
      else if key = keyOf other then (some key, j) :: members
      else other :: insertMember key j members := rfl

lemma mem_insertMember {m : Option String × Json} (mem : m ∈ insertMember key j members) :
    m = (some key, j) ∨ m ∈ members := by
  induction members with
  | nil => simpa [insertMember] using mem
  | cons other members ih =>
    rw [insertMember_cons] at mem
    split_ifs at mem with first same <;> grind

lemma pairwise_insertMember (ascending : members.Pairwise fun m n => keyOf m < keyOf n) :
    (insertMember key j members).Pairwise fun m n => keyOf m < keyOf n := by
  induction members with
  | nil => exact List.pairwise_singleton ..
  | cons other members ih =>
    obtain ⟨least, rest⟩ := List.pairwise_cons.mp ascending
    rw [insertMember_cons]
    split_ifs with first same
    · refine List.pairwise_cons.mpr ⟨?_, ascending⟩
      intro m mem
      obtain rfl | mem := List.mem_cons.mp mem
      · exact first
      · exact String.lt_trans first (least m mem)
    · refine List.pairwise_cons.mpr ⟨?_, rest⟩
      intro m mem
      change key < keyOf m
      rw [same]
      exact least m mem
    · refine List.pairwise_cons.mpr ⟨?_, ih rest⟩
      intro m mem
      obtain rfl | mem := mem_insertMember mem
      · exact Std.lt_of_le_of_ne (String.not_lt.mp first) (Ne.symm same)
      · exact least m mem

lemma Ordered.insertMember (ordered : Ordered members) : Ordered (insertMember key j members) := by
  refine ⟨?_, pairwise_insertMember ordered.ascending⟩
  intro m mem
  obtain rfl | mem := mem_insertMember mem
  · rfl
  · exact ordered.keys m mem

/-- A key that is above all others is put behind them. -/
lemma insertMember_of_above (above : ∀ m ∈ members, keyOf m < key) :
    insertMember key j members = members ++ [(some key, j)] := by
  induction members with
  | nil => rfl
  | cons other members ih =>
    obtain ⟨below, above⟩ := List.forall_mem_cons.mp above
    have notFirst : ¬key < keyOf other := String.lt_asymm below
    have notSame : key ≠ keyOf other := by
      rintro rfl
      exact String.lt_irrefl _ below
    rw [insertMember_cons, if_neg notFirst, if_neg notSame, ih above]
    rfl

/-- Members in order are put one behind the other. -/
lemma foldl_insertMember (ordered : Ordered (before ++ members)) :
    members.foldl (fun kept m => insertMember (keyOf m) m.2 kept) before = before ++ members := by
  induction members generalizing before with
  | nil => simp
  | cons m members ih =>
    have above : ∀ n ∈ before, keyOf n < keyOf m := by
      intro n mem
      exact (List.pairwise_append.mp ordered.ascending).2.2 n mem m List.mem_cons_self
    have key : (some (keyOf m), m.2) = m := by
      rw [← ordered.keys m (by simp)]
    have next : Ordered ((before ++ [m]) ++ members) := by simpa using ordered
    rw [List.foldl_cons, insertMember_of_above above, key, ih next, List.append_assoc]
    rfl

lemma ordered_foldl_insertMember {ms : List (String × Json)} (ordered : Ordered before) :
    Ordered (ms.foldl (fun kept m => insertMember m.1 m.2 kept) before) := by
  induction ms generalizing before with
  | nil => exact ordered
  | cons m ms ih => exact ih ordered.insertMember

lemma mem_foldl_insertMember {ms : List (String × Json)} {m : Option String × Json}
    (mem : m ∈ ms.foldl (fun kept m => insertMember m.1 m.2 kept) before) :
    m ∈ before ∨ ∃ n ∈ ms, m = (some n.1, n.2) := by
  induction ms generalizing before with
  | nil => exact .inl mem
  | cons n ms ih =>
    obtain mem | ⟨o, known, rfl⟩ := ih mem
    · obtain rfl | mem := mem_insertMember mem
      · exact .inr ⟨n, List.mem_cons_self, rfl⟩
      · exact .inl mem
    · exact .inr ⟨o, List.mem_cons_of_mem n known, rfl⟩

end Members

/-! ### Values -/

/-- A value in the kept form. -/
inductive Kept : Json → Prop where
  | null : Kept .null
  | bool (b : Bool) : Kept (.bool b)
  | int (n : Int) : Kept (.int n)
  | decimal {literal : String} (finite : (Magnitude.ofLiteral literal.toList).isFinite = true) :
    Kept (.decimal literal)
  | string (s : String) : Kept (ofString s)
  | array {items : List Json} (all : ∀ j ∈ items, Kept j) : Kept (.array items)
  | object {members : List (Option String × Json)} (ordered : Ordered members)
    (values : ∀ m ∈ members, Kept m.2) : Kept (.object members)

section Values

variable {j : Json} {items : List Json} {members : List (Option String × Json)}

lemma keepItems?_eq
    (all : ∀ j ∈ items, ∀ d, keep? d j = if j.depth ≤ d then some j else none) (d : Nat) :
    keepItems? d items = if itemsDepth items ≤ d then some items else none := by
  induction items with
  | nil => simp [keepItems?, itemsDepth]
  | cons j items ih =>
    obtain ⟨first, rest⟩ := List.forall_mem_cons.mp all
    simp only [keepItems?, first d, ih rest, itemsDepth, Nat.max_le]
    by_cases fits : j.depth ≤ d <;> by_cases fit : itemsDepth items ≤ d <;> simp [fits, fit]

lemma keepMembers?_eq (keys : ∀ m ∈ members, m.1 = some (keyOf m))
    (all : ∀ m ∈ members, ∀ d, keep? d m.2 = if m.2.depth ≤ d then some m.2 else none) (d : Nat) :
    keepMembers? d members =
      if membersDepth members ≤ d then some (members.map fun m => (keyOf m, m.2)) else none := by
  induction members with
  | nil => simp [keepMembers?, membersDepth]
  | cons m members ih =>
    obtain ⟨key, keys⟩ := List.forall_mem_cons.mp keys
    obtain ⟨first, rest⟩ := List.forall_mem_cons.mp all
    simp only [keepMembers?, first d, ih keys rest, membersDepth, key, Nat.max_le]
    by_cases fits : m.2.depth ≤ d <;> by_cases fit : membersDepth members ≤ d <;> simp [fits, fit]

/-- A value in the kept form is kept as it is, unless it nests too deep. -/
lemma Kept.keep?_eq (kept : j.Kept) (d : Nat) :
    keep? d j = if j.depth ≤ d then some j else none := by
  induction kept generalizing d with
  | null | bool | int | string => simp [keep?, depth, ofString]
  | decimal finite => simp [keep?, depth, finite]
  | array _ ih =>
    cases d with
    | zero => simp [keep?, depth]
    | succ d =>
      rw [keep?, keepItems?_eq ih d, depth]
      split <;> simp_all
  | @object members ordered _ ih =>
    cases d with
    | zero => simp [keep?, depth]
    | succ d =>
      have put := @foldl_insertMember members [] ordered
      rw [keep?, keepMembers?_eq ordered.keys ih d, depth]
      by_cases fits : membersDepth members ≤ d
      · simpa [fits, List.foldl_map] using put
      · simp [fits]

mutual

/-- What is kept is in the kept form, and it does not nest too deep. -/
theorem kept_of_keep? {d : Nat} {j k : Json} (keeps : keep? d j = some k) :
    k.Kept ∧ k.depth ≤ d := by
  match j with
  | .null =>
    cases keeps
    exact ⟨.null, Nat.zero_le d⟩
  | .bool b =>
    cases keeps
    exact ⟨.bool b, Nat.zero_le d⟩
  | .int n =>
    cases keeps
    exact ⟨.int n, Nat.zero_le d⟩
  | .decimal literal =>
    rw [keep?] at keeps
    split at keeps
    · next finite =>
      cases keeps
      exact ⟨.decimal finite, Nat.zero_le d⟩
    · cases keeps
  | .string text =>
    obtain ⟨s, rfl, rfl⟩ := Option.map_eq_some_iff.mp keeps
    exact ⟨.string s, Nat.zero_le d⟩
  | .array items =>
    cases d with
    | zero => cases keeps
    | succ d =>
      obtain ⟨kept, inside, rfl⟩ := Option.map_eq_some_iff.mp keeps
      have all := kept_of_keepItems? inside
      refine ⟨.array fun k mem => (all k mem).1, Nat.succ_le_succ ?_⟩
      exact itemsDepth_le_iff.mpr fun k mem => (all k mem).2
  | .object members =>
    cases d with
    | zero => cases keeps
    | succ d =>
      obtain ⟨kept, inside, rfl⟩ := Option.map_eq_some_iff.mp keeps
      have all := kept_of_keepMembers? inside
      have values : ∀ m ∈ kept.foldl (fun kept m => insertMember m.1 m.2 kept) [],
          m.2.Kept ∧ m.2.depth ≤ d := by
        intro m mem
        obtain mem | ⟨n, known, rfl⟩ := mem_foldl_insertMember mem
        · cases mem
        · exact all n known
      have ordered : Ordered (kept.foldl (fun kept m => insertMember m.1 m.2 kept) []) :=
        ordered_foldl_insertMember ⟨by simp, .nil⟩
      refine ⟨.object ordered fun m mem => (values m mem).1, Nat.succ_le_succ ?_⟩
      exact membersDepth_le_iff.mpr fun m mem => (values m mem).2

theorem kept_of_keepItems? {d : Nat} {items kept : List Json}
    (keeps : keepItems? d items = some kept) : ∀ k ∈ kept, k.Kept ∧ k.depth ≤ d := by
  match items with
  | [] =>
    cases keeps
    simp
  | j :: items =>
    rw [keepItems?] at keeps
    simp only [Option.bind_eq_bind, Option.bind_eq_some_iff, Option.pure_def] at keeps
    obtain ⟨k, first, ks, rest, same⟩ := keeps
    cases same
    exact List.forall_mem_cons.mpr ⟨kept_of_keep? first, kept_of_keepItems? rest⟩

theorem kept_of_keepMembers? {d : Nat} {members : List (Option String × Json)}
    {kept : List (String × Json)} (keeps : keepMembers? d members = some kept) :
    ∀ m ∈ kept, m.2.Kept ∧ m.2.depth ≤ d := by
  match members with
  | [] =>
    cases keeps
    simp
  | (key, j) :: members =>
    rw [keepMembers?] at keeps
    simp only [Option.bind_eq_bind, Option.bind_eq_some_iff, Option.pure_def] at keeps
    obtain ⟨name, -, k, first, ms, rest, same⟩ := keeps
    cases same
    exact List.forall_mem_cons.mpr ⟨kept_of_keep? first, kept_of_keepMembers? rest⟩

end

lemma eq_null_of_keep? {d : Nat} (keeps : keep? d j = some .null) : j = .null := by
  cases j with
  | null => rfl
  | bool | int => cases keeps
  | decimal =>
    rw [keep?] at keeps
    split at keeps <;> cases keeps
  | string text => cases text <;> cases keeps
  | array | object =>
    cases d with
    | zero => cases keeps
    | succ d =>
      obtain ⟨_, _, null⟩ := Option.map_eq_some_iff.mp keeps
      cases null

end Values

end SliceSelection.Json
