import SliceSelection.Json.Token

/-!
# Magnitudes

A number that is kept has to fit into a double. How far it reaches is told by a factor of 64 bits
and a power of ten: digits that the factor has no room for are left out behind the point, and
count as further powers of ten before it. Factor and power are each rounded to 53 bits, and their
product must not round to infinity.
-/

namespace SliceSelection.Json

/-- A number without its sign. -/
structure Magnitude where
  factor : Nat
  power : Int
deriving DecidableEq, Repr

namespace Magnitude

/-- Add digits to a factor while it fits into 64 bits, and tell how many were left out. -/
def addDigits (factor : Nat) : List Char → Nat × Nat
  | [] => (factor, 0)
  | d :: ds =>
    let more := factor * 10 + digitsValue [d]
    if more < UInt64.size then addDigits more ds else (factor, ds.length + 1)

/-- The power of ten that an exponent stands for. -/
def exponent : List Char → Int
  | _ :: '-' :: ds => -(digitsValue ds : Int)
  | _ :: '+' :: ds => digitsValue ds
  | _ :: ds => digitsValue ds
  | [] => 0

/-- The magnitude of a number as it is written. -/
def ofLiteral (literal : List Char) : Magnitude :=
  let (whole, rest) := (literal.dropWhile (· == '-')).span Char.isDigit
  let (fraction, rest) := (rest.dropWhile (· == '.')).span Char.isDigit
  let (factor, left) := addDigits 0 whole
  let (factor, dropped) := addDigits factor fraction
  ⟨factor, left - (fraction.length - dropped : Nat) + exponent rest⟩

/-- The number of bits of a double's significand. -/
def precision : Nat := 53

/-- A natural number rounded to the precision, a half to the even neighbour. -/
def rounded (n : Nat) : Nat :=
  let excess := n.log2 + 1 - precision
  let kept := n >>> excess
  let rest := n - (kept <<< excess)
  if rest * 2 < 1 <<< excess || (rest * 2 == 1 <<< excess && kept % 2 == 0) then kept <<< excess
  else (kept + 1) <<< excess

/-- The least number that rounds to infinity. -/
def limit : Nat := ((1 <<< (precision + 1)) - 1) <<< 970

/-- The greatest power of ten that a double holds. -/
def maxPower : Nat := 308

/-- Whether a number fits into a double. -/
def isFinite (m : Magnitude) : Bool :=
  m.factor == 0 || m.power < 0 ||
    (m.power ≤ maxPower && rounded m.factor * rounded (Nat.pow 10 m.power.toNat) < limit)

end Magnitude

end SliceSelection.Json
