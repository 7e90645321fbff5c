/-!
# Fields on the wire

A message is a sequence of fields, each a number with a value of one of a few shapes. Numbers are
written seven bits to a byte, the low ones first. A reader takes a message apart into fields
without knowing what they mean; a group, an old form of nesting, is read over up to its end.
-/

namespace SliceSelection.SliceStream

/-- The bytes of a message. -/
abbrev Bytes := List UInt8

/-! ### Numbers -/

/-- A number, seven bits to a byte, all but the last marked. -/
def writeVarint (n : Nat) : Bytes :=
  if n < 128 then [.ofNat n] else .ofNat (128 + n % 128) :: writeVarint (n / 128)
termination_by n
decreasing_by omega

/-- Read a number of at most a count of bytes, and what follows it. -/
def readVarintWithin : Nat → Bytes → Option (Nat × Bytes)
  | 0, _ => none
  | _ + 1, [] => none
  | left + 1, b :: rest =>
    if b.toNat < 128 then some (b.toNat, rest)
    else (readVarintWithin left rest).map fun (n, rest) => (b.toNat - 128 + 128 * n, rest)

/-- Read a number of 64 bits, and what follows it. -/
def readVarint (bytes : Bytes) : Option (Nat × Bytes) :=
  match readVarintWithin 10 bytes with
  | some (n, rest) => if n < UInt64.size then some (n, rest) else none
  | none => none

theorem length_of_readVarintWithin {left n : Nat} {bytes rest : Bytes}
    (h : readVarintWithin left bytes = some (n, rest)) : rest.length < bytes.length := by
  fun_induction readVarintWithin left bytes generalizing n rest with
  | case1 => simp at h
  | case2 => simp at h
  | case3 left b bs _ =>
    obtain ⟨-, rfl⟩ := Prod.mk.inj (Option.some.inj h)
    simp
  | case4 left b bs _ ih =>
    obtain ⟨⟨m, t⟩, hm, he⟩ := Option.map_eq_some_iff.1 h
    have := ih hm
    simp only [Prod.mk.injEq] at he
    simp only [List.length_cons, ← he.2]
    omega

theorem length_of_readVarint {n : Nat} {bytes rest : Bytes}
    (h : readVarint bytes = some (n, rest)) : rest.length < bytes.length := by
  unfold readVarint at h
  split at h
  · split at h
    · rename_i m t hm _
      obtain ⟨-, rfl⟩ := Prod.mk.inj (Option.some.inj h)
      exact length_of_readVarintWithin hm
    · simp at h
  · simp at h

/-! ### Fields -/

/-- The value of a field. -/
inductive Value where
  | varint (n : Nat)
  | fixed64 (bytes : Bytes)
  | bytes (bytes : Bytes)
  | group
  | fixed32 (bytes : Bytes)
deriving DecidableEq, Repr

/-- A field: its number and its value. -/
structure Field where
  number : Nat
  value : Value
deriving DecidableEq, Repr

/-- The shapes that values have on the wire. -/
inductive Shape where
  | varint | fixed64 | bytes | groupStart | groupEnd | fixed32
deriving DecidableEq, Repr

namespace Shape

/-- The shape with a code. -/
def ofCode? : Nat → Option Shape
  | 0 => some .varint
  | 1 => some .fixed64
  | 2 => some .bytes
  | 3 => some .groupStart
  | 4 => some .groupEnd
  | 5 => some .fixed32
  | _ => none

/-- The code of a shape. -/
def code : Shape → Nat
  | .varint => 0
  | .fixed64 => 1
  | .bytes => 2
  | .groupStart => 3
  | .groupEnd => 4
  | .fixed32 => 5

end Shape

/-- Read what stands before a value: the number of the field, which is not zero and has 29 bits,
and the shape of the value. -/
def readKey (bytes : Bytes) : Option ((Nat × Shape) × Bytes) := do
  let (key, rest) ← readVarint bytes
  if UInt32.size ≤ key || key / 8 = 0 then none
  return ((key / 8, ← Shape.ofCode? (key % 8)), rest)

/-- Split off a count of bytes, if there are that many. -/
def takeBytes (n : Nat) (bytes : Bytes) : Option (Bytes × Bytes) :=
  if n ≤ bytes.length then some (bytes.splitAt n) else none

/-- Read a value that is no group, and what follows it. -/
def readValue (shape : Shape) (bytes : Bytes) : Option (Value × Bytes) :=
  match shape with
  | .varint => (readVarint bytes).map fun (n, rest) => (.varint n, rest)
  | .fixed64 => (takeBytes 8 bytes).map fun (v, rest) => (.fixed64 v, rest)
  | .bytes => do
    let (n, rest) ← readVarint bytes
    let (v, rest) ← takeBytes n rest
    return (.bytes v, rest)
  | .fixed32 => (takeBytes 4 bytes).map fun (v, rest) => (.fixed32 v, rest)
  | .groupStart => none
  | .groupEnd => none

theorem length_of_readKey {k : Nat × Shape} {bytes rest : Bytes}
    (h : readKey bytes = some (k, rest)) : rest.length < bytes.length := by
  unfold readKey at h
  obtain ⟨⟨key, t⟩, hk, h⟩ := Option.bind_eq_some_iff.1 h
  have hlt := length_of_readVarint hk
  simp only [Option.bind_eq_bind] at h
  split at h
  · simp at h
  · obtain ⟨s, -, h⟩ := Option.bind_eq_some_iff.1 h
    obtain ⟨-, rfl⟩ := Prod.mk.inj (Option.some.inj h)
    exact hlt

theorem length_of_takeBytes {n : Nat} {v bytes rest : Bytes}
    (h : takeBytes n bytes = some (v, rest)) : rest.length ≤ bytes.length := by
  unfold takeBytes at h
  split at h
  · rw [List.splitAt_eq] at h
    obtain ⟨-, rfl⟩ := Prod.mk.inj (Option.some.inj h)
    simp
  · simp at h

theorem length_of_readValue {shape : Shape} {v : Value} {bytes rest : Bytes}
    (h : readValue shape bytes = some (v, rest)) : rest.length ≤ bytes.length := by
  cases shape with
  | varint =>
    obtain ⟨⟨n, t⟩, hn, he⟩ := Option.map_eq_some_iff.1 h
    cases he
    exact Nat.le_of_lt (length_of_readVarint hn)
  | fixed64 =>
    obtain ⟨⟨n, t⟩, hn, he⟩ := Option.map_eq_some_iff.1 h
    cases he
    exact length_of_takeBytes hn
  | bytes =>
    obtain ⟨⟨n, t⟩, hn, h⟩ := Option.bind_eq_some_iff.1 h
    obtain ⟨⟨w, u⟩, hw, h⟩ := Option.bind_eq_some_iff.1 h
    cases h
    exact Nat.le_trans (length_of_takeBytes hw) (Nat.le_of_lt (length_of_readVarint hn))
  | fixed32 =>
    obtain ⟨⟨n, t⟩, hn, he⟩ := Option.map_eq_some_iff.1 h
    cases he
    exact length_of_takeBytes hn
  | groupStart => simp [readValue] at h
  | groupEnd => simp [readValue] at h

/-- Read the fields of a message inside of groups with the given numbers, the innermost first.
What a group holds is read over; groups nest less deep than the budget. -/
def readFields (budget : Nat) (opened : List Nat) (bytes : Bytes) : Option (List Field) :=
  match bytes with
  | [] => if opened.isEmpty then some [] else none
  | b :: bs =>
    match _h : readKey (b :: bs) with
    | none => none
    | some ((number, .groupStart), rest) =>
      if budget ≤ opened.length then none else readFields budget (number :: opened) rest
    | some ((number, .groupEnd), rest) =>
      match opened with
      | [] => none
      | o :: outer =>
        if o ≠ number then none
        else if outer.isEmpty then do return ⟨number, .group⟩ :: (← readFields budget [] rest)
        else readFields budget outer rest
    | some ((number, shape), rest) =>
      match _h' : readValue shape rest with
      | none => none
      | some (v, rest') =>
        if budget ≤ opened.length then none
        else if opened.isEmpty then do return ⟨number, v⟩ :: (← readFields budget [] rest')
        else readFields budget opened rest'
termination_by bytes.length
decreasing_by
  · exact length_of_readKey (by assumption)
  · exact length_of_readKey (by assumption)
  · exact length_of_readKey (by assumption)
  all_goals
    exact Nat.lt_of_le_of_lt (length_of_readValue (by assumption))
      (length_of_readKey (by assumption))

/-! ### Writing -/

/-- What stands before a value. -/
def writeKey (number : Nat) (shape : Shape) : Bytes := writeVarint (number * 8 + shape.code)

/-- A field that holds bytes. -/
def writeBytes (number : Nat) (bytes : Bytes) : Bytes :=
  writeKey number .bytes ++ writeVarint bytes.length ++ bytes

/-- A field that holds a number. -/
def writeNumber (number : Nat) (n : Nat) : Bytes := writeKey number .varint ++ writeVarint n

end SliceSelection.SliceStream
