import Std.Data.ExtTreeMap

/-!
# Network identities

A public land mobile network is named by a country code and a network code. Both are kept as
the digit strings of the wire, so that the two-digit code `01` and the three-digit code `001`
stay apart, and identities are ordered by country code first.
-/

namespace SliceSelection

/-- The identity of a public land mobile network. -/
structure PlmnId where
  /-- The mobile country code. -/
  mcc : String
  /-- The mobile network code. -/
  mnc : String
deriving DecidableEq, Repr, Inhabited

namespace PlmnId

/-- The text of an identity: both codes, joined by a hyphen. -/
def text (p : PlmnId) : String := p.mcc ++ "-" ++ p.mnc

/-! ### Order -/

/-- Identities are ordered by country code, then by network code. -/
instance : Ord PlmnId := ⟨compareLex (compareOn mcc) (compareOn mnc)⟩

theorem compare_def :
    (compare : PlmnId → PlmnId → Ordering) = compareLex (compareOn mcc) (compareOn mnc) := rfl

instance : Std.TransOrd PlmnId :=
  inferInstanceAs (Std.TransCmp (compareLex (compareOn mcc) (compareOn mnc)))

instance : Std.LawfulEqOrd PlmnId where
  eq_of_compare {a b} h := by
    rw [compare_def, compareLex, Ordering.then_eq_eq] at h
    cases a; cases b
    simp only [compareOn] at h
    rw [mk.injEq]
    exact ⟨Std.LawfulEqCmp.eq_of_compare h.1, Std.LawfulEqCmp.eq_of_compare h.2⟩

end PlmnId

end SliceSelection
