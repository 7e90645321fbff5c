/-!
# Likeness

How alike two texts are, from 0 for texts that share nothing to 1 for equal ones. Letters are
partners if they are equal and stand not too far apart. What counts is the share of each text that
has partners, and how many of the partners stand in the same order.
-/

namespace SliceSelection.Text

/-- The place of the first letter that may be the partner of one: it is equal, at most a number of
places away, and not taken. -/
def partner? (reach : Nat) (b : List Char) (taken : List Nat) (c : Char) (place : Nat) :
    Option Nat :=
  (b.zipIdx.find? fun (d, i) =>
    d == c && place ≤ i + reach && i ≤ place + reach && !taken.contains i).map (·.2)

/-- The letters of a text that have partners in another, and the places of those. -/
def partners (reach : Nat) (a b : List Char) : List (Char × Nat) :=
  a.zipIdx.foldl (fun found (c, place) =>
    match partner? reach b (found.map (·.2)) c place with
    | some i => found ++ [(c, i)]
    | none => found) []

/-- A part of a whole. -/
def share (part whole : Nat) : Float := .ofNat part / .ofNat whole

/-- How alike two texts are: the mean of the three shares. -/
def likeness (s t : String) : Float :=
  let (a, b) := (s.toList, t.toList)
  let found := partners (max a.length b.length / 2 - 1) a b
  let matched := b.zipIdx.filter fun (_, i) => found.any (·.2 == i)
  let swapped := ((found.zip matched).filter fun (p, q) => p.1 ≠ q.1).length / 2
  let m := found.length
  if m = 0 then 0 else (share m a.length + share m b.length + share (m - swapped) m) / 3

end SliceSelection.Text
