/-!
# UTF-8

A text travels as bytes: a character below 128 is one byte, any other a leading byte that
announces how many follow. `decode` reads bytes back, and where they are no text it says at
which byte the first bad sequence starts and how long it is, or that the input ended inside it.
-/

namespace SliceSelection.Text.Utf8

/-! ### Writing -/

/-- A continuation byte: the low six bits of a number behind the marker `10`. -/
def continuation (n : Nat) : UInt8 := UInt8.ofNat (0x80 + n % 64)

/-- The bytes of a character. -/
def encodeChar (c : Char) : List UInt8 :=
  let n := c.toNat
  if n < 0x80 then [UInt8.ofNat n]
  else if n < 0x800 then [UInt8.ofNat (0xC0 + n / 64), continuation n]
  else if n < 0x10000 then
    [UInt8.ofNat (0xE0 + n / 4096), continuation (n / 64), continuation n]
  else
    [UInt8.ofNat (0xF0 + n / 262144), continuation (n / 4096), continuation (n / 64),
      continuation n]

/-- The bytes of a text. -/
def encode (s : String) : List UInt8 := s.toList.flatMap encodeChar

/-! ### Reading -/

/-- Where bytes stop being text. -/
structure Fault where
  /-- The index of the first byte of the bad sequence. -/
  index : Nat
  /-- The number of bad bytes, or nothing if the input ends inside a sequence. -/
  length : Option Nat
deriving DecidableEq, Repr

/-- What a fault says. -/
def Fault.message (f : Fault) : String :=
  match f.length with
  | some n => "invalid utf-8 sequence of " ++ toString n ++ " bytes from index " ++ toString f.index
  | none => "incomplete utf-8 byte sequence from index " ++ toString f.index

/-- A character of which some bytes were read. -/
structure Pending where
  /-- The bits read so far. -/
  value : Nat
  /-- The number of bytes that are still owed. -/
  owed : Nat
  /-- The least byte that may come next. -/
  low : Nat
  /-- The greatest byte that may come next. -/
  high : Nat
  /-- The number of bytes read. -/
  read : Nat
deriving DecidableEq, Repr

/-- What a leading byte announces: the bounds on the second byte leave out forms that are too
long, surrogates, and numbers beyond the last character. -/
def lead (n : Nat) : Option Pending :=
  if n < 0xC2 then none
  else if n < 0xE0 then some ⟨n - 0xC0, 1, 0x80, 0xBF, 1⟩
  else if n < 0xF0 then
    some ⟨n - 0xE0, 2, if n = 0xE0 then 0xA0 else 0x80, if n = 0xED then 0x9F else 0xBF, 1⟩
  else if n < 0xF5 then
    some ⟨n - 0xF0, 3, if n = 0xF0 then 0x90 else 0x80, if n = 0xF4 then 0x8F else 0xBF, 1⟩
  else none

/-- Read bytes from the character that starts at an index, of which some bytes may have been
read already. -/
def decodeFrom (start : Nat) : Option Pending → List UInt8 → Except Fault (List Char)
  | none, [] => .ok []
  | some _, [] => .error ⟨start, none⟩
  | none, b :: bs =>
    if b.toNat < 0x80 then (Char.ofNat b.toNat :: ·) <$> decodeFrom (start + 1) none bs
    else match lead b.toNat with
      | some p => decodeFrom start (some p) bs
      | none => .error ⟨start, some 1⟩
  | some p, b :: bs =>
    if p.low ≤ b.toNat ∧ b.toNat ≤ p.high then
      let value := p.value * 64 + b.toNat % 64
      if p.owed ≤ 1 then (Char.ofNat value :: ·) <$> decodeFrom (start + p.read + 1) none bs
      else decodeFrom start (some ⟨value, p.owed - 1, 0x80, 0xBF, p.read + 1⟩) bs
    else .error ⟨start, some p.read⟩

/-- The text that bytes stand for. -/
def decode (bytes : List UInt8) : Except Fault String := String.ofList <$> decodeFrom 0 none bytes

end SliceSelection.Text.Utf8
