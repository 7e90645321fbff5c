import Std.Data.ExtTreeMap

/-!
# Slice identifiers

A network slice is selected by a slice/service type and a slice differentiator. An absent
differentiator is the empty text, so that a slice without one has a single form.
-/

namespace SliceSelection

/-- A slice identifier: slice/service type and slice differentiator. -/
structure Snssai where
  /-- The slice/service type. -/
  sst : UInt8
  /-- The slice differentiator: six hexadecimal digits, or empty. -/
  sd : String
deriving DecidableEq, Repr, Inhabited

namespace Snssai

/-- The slice of a type whose differentiator may be left out. -/
def ofOptionalSd (sst : UInt8) (sd : Option String) : Snssai := ⟨sst, sd.getD ""⟩

/-- The standardised slices are those of type 1 to 3 without a differentiator. -/
def isStandard (s : Snssai) : Bool := s.sd.isEmpty && 1 ≤ s.sst && s.sst ≤ 3

/-- The text of a slice names its type, and its differentiator if it has one. -/
def text (s : Snssai) : String :=
  if s.sd.isEmpty then "sst:" ++ toString s.sst.toNat
  else "sst:" ++ toString s.sst.toNat ++ " sd:" ++ s.sd

/-! ### Order -/

/-- The type as a number. -/
def sstNat (s : Snssai) : Nat := s.sst.toNat

/-- Slices are ordered by type, then by differentiator. -/
instance : Ord Snssai := ⟨compareLex (compareOn sstNat) (compareOn sd)⟩

theorem compare_def :
    (compare : Snssai → Snssai → Ordering) = compareLex (compareOn sstNat) (compareOn sd) := rfl

instance : Std.TransOrd Snssai :=
  inferInstanceAs (Std.TransCmp (compareLex (compareOn sstNat) (compareOn sd)))

instance : Std.LawfulEqOrd Snssai where
  eq_of_compare {a b} h := by
    rw [compare_def, compareLex, Ordering.then_eq_eq] at h
    cases a; cases b
    simp only [compareOn] at h
    rw [mk.injEq]
    exact ⟨UInt8.toNat_inj.1 (Std.LawfulEqCmp.eq_of_compare h.1),
      Std.LawfulEqCmp.eq_of_compare h.2⟩

end Snssai

end SliceSelection
