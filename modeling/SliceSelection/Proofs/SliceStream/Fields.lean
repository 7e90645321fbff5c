import Mathlib.Algebra.Group.Nat.Defs
import Mathlib.Tactic.Common
import SliceSelection.SliceStream.Field

/-!
# Fields that are read off the wire

`Varint` and `Field.Spells` are the rules of the wire: which bytes stand for a number, and which for
a field. A number need not be written in the shortest way. Bytes that spell a field are read as that
field, whatever stands behind them; and what is written for a field spells it.
-/

namespace SliceSelection.SliceStream

variable {n number : Nat} {shape : Shape} {bs rest key : Bytes}

/-! ### Numbers -/

/-- Bytes stand for a number: seven bits in each, the low ones first, all but the last marked. -/
inductive Base128 : Nat → Bytes → Prop where
  | last {b : UInt8} (unmarked : b.toNat < 128) : Base128 b.toNat [b]
  | more {b : UInt8} {n : Nat} {bs : Bytes} (marked : ¬b.toNat < 128) (higher : Base128 n bs) :
    Base128 (b.toNat - 128 + 128 * n) (b :: bs)

/-- At most ten bytes stand for a number of 64 bits. -/
structure Varint (n : Nat) (bs : Bytes) : Prop where
  digits : Base128 n bs
  length : bs.length ≤ 10
  small : n < UInt64.size

lemma Base128.read {left : Nat} (digits : Base128 n bs) (length : bs.length ≤ left) :
    readVarintWithin left (bs ++ rest) = some (n, rest) := by
  induction digits generalizing left with
  | last unmarked =>
    obtain ⟨left, rfl⟩ := Nat.exists_eq_add_of_le' length
    simp [readVarintWithin, unmarked]
  | more marked _ ih =>
    rw [List.length_cons] at length
    obtain ⟨left, rfl⟩ : ∃ m, left = m + 1 := ⟨left - 1, by omega⟩
    simp [readVarintWithin, marked, ih (Nat.le_of_succ_le_succ length)]

lemma Varint.read (varint : Varint n bs) (rest : Bytes) :
    readVarint (bs ++ rest) = some (n, rest) := by
  simp [readVarint, varint.digits.read varint.length, varint.small]

lemma writeVarint_of_lt (lt : n < 128) : writeVarint n = [.ofNat n] := by
  rw [writeVarint, if_pos lt]

lemma base128_writeVarint (n : Nat) : Base128 n (writeVarint n) := by
  induction n using Nat.strongRecOn with
  | ind n ih =>
    rw [writeVarint]
    split_ifs with small
    · have byte : (UInt8.ofNat n).toNat = n := by simp; omega
      simpa [byte] using Base128.last (b := UInt8.ofNat n) (by omega)
    · have byte : (UInt8.ofNat (128 + n % 128)).toNat = 128 + n % 128 := by simp; omega
      have value : 128 + n % 128 - 128 + 128 * (n / 128) = n := by omega
      have higher := ih (n / 128) (by omega)
      have more := Base128.more (b := UInt8.ofNat (128 + n % 128)) (by omega) higher
      rwa [byte, value] at more

lemma length_writeVarint_le {k : Nat} (lt : n < 128 ^ (k + 1)) :
    (writeVarint n).length ≤ k + 1 := by
  induction k generalizing n with
  | zero => simp [writeVarint_of_lt (n := n) (by omega)]
  | succ k ih =>
    rw [writeVarint]
    split_ifs
    · simp
    · simpa using ih (n := n / 128) (by omega)

lemma varint_writeVarint (small : n < UInt64.size) : Varint n (writeVarint n) :=
  ⟨base128_writeVarint n, length_writeVarint_le (Nat.lt_trans small (by decide)), small⟩

/-! ### Fields -/

/-- The numbers that fields may have. -/
def IsNumber (number : Nat) : Prop := 0 < number ∧ number < 2 ^ 29

instance : Decidable (IsNumber number) := inferInstanceAs (Decidable (_ ∧ _))

/-- Bytes that stand before a value of a shape in a field of a number. -/
structure IsKey (number : Nat) (shape : Shape) (key : Bytes) : Prop where
  valid : IsNumber number
  varint : Varint (number * 8 + shape.code) key

/-- Bytes stand for a field that is no group. -/
inductive Field.Spells : Field → Bytes → Prop where
  | varint {number n : Nat} {key value : Bytes} (isKey : IsKey number .varint key)
    (isValue : Varint n value) : Spells ⟨number, .varint n⟩ (key ++ value)
  | fixed64 {number : Nat} {key value : Bytes} (isKey : IsKey number .fixed64 key)
    (size : value.length = 8) : Spells ⟨number, .fixed64 value⟩ (key ++ value)
  | bytes {number : Nat} {key size value : Bytes} (isKey : IsKey number .bytes key)
    (isSize : Varint value.length size) : Spells ⟨number, .bytes value⟩ (key ++ (size ++ value))
  | fixed32 {number : Nat} {key value : Bytes} (isKey : IsKey number .fixed32 key)
    (size : value.length = 4) : Spells ⟨number, .fixed32 value⟩ (key ++ value)

lemma IsKey.read (isKey : IsKey number shape key) (rest : Bytes) :
    readKey (key ++ rest) = some ((number, shape), rest) := by
  obtain ⟨⟨pos, lt⟩, varint⟩ := isKey
  have code : shape.code < 8 := by cases shape <;> decide
  have size : ¬UInt32.size ≤ number * 8 + shape.code := by
    rw [UInt32.size]
    omega
  have high : (number * 8 + shape.code) / 8 = number := by omega
  have low : (number * 8 + shape.code) % 8 = shape.code := by omega
  have back : Shape.ofCode? shape.code = some shape := by cases shape <;> rfl
  simp [readKey, varint.read, size, high, low, back]
  omega

lemma isKey_writeKey (valid : IsNumber number) : IsKey number shape (writeKey number shape) := by
  have lt := valid.2
  have code : shape.code < 8 := by cases shape <;> decide
  have small : number * 8 + shape.code < UInt64.size := by
    rw [UInt64.size]
    omega
  exact ⟨valid, varint_writeVarint small⟩

lemma takeBytes_append (value rest : Bytes) :
    takeBytes value.length (value ++ rest) = some (value, rest) := by
  simp [takeBytes]

/-- A key and a value are read as a field. -/
lemma readFields_of_value {budget : Nat} {value : Value} {bytes behind : Bytes}
    (pos : 0 < budget) (key : readKey bytes = some ((number, shape), rest))
    (read : readValue shape rest = some (value, behind)) :
    readFields budget [] bytes = (readFields budget [] behind).map (⟨number, value⟩ :: ·) := by
  have known : ¬budget ≤ ([] : List Nat).length := Nat.not_le.2 pos
  cases bytes with
  | nil => simp [readKey, readVarint, readVarintWithin] at key
  | cons b bs =>
    rw [readFields]
    split <;> rename_i found
    · simp [key] at found
    · obtain ⟨⟨rfl, rfl⟩, rfl⟩ : _ := by simpa [key] using found
      simp [readValue] at read
    · obtain ⟨⟨rfl, rfl⟩, rfl⟩ : _ := by simpa [key] using found
      simp [readValue] at read
    · obtain ⟨⟨rfl, rfl⟩, rfl⟩ : _ := by simpa [key] using found
      split <;> rename_i seen
      · simp [read] at seen
      · obtain ⟨rfl, rfl⟩ : _ := by simpa [read] using seen
        rw [if_neg known]
        cases readFields budget [] behind <;> rfl

lemma Field.Spells.read {f : Field} (spells : f.Spells bs) {budget : Nat} (pos : 0 < budget)
    (rest : Bytes) :
    readFields budget [] (bs ++ rest) = (readFields budget [] rest).map (f :: ·) := by
  cases spells with
  | varint isKey isValue =>
    rw [List.append_assoc]
    exact readFields_of_value pos (isKey.read _) (by simp [readValue, isValue.read])
  | fixed64 isKey size =>
    rw [List.append_assoc]
    refine readFields_of_value pos (isKey.read _) ?_
    simp [readValue, ← size, takeBytes_append]
  | bytes isKey isSize =>
    rw [List.append_assoc, List.append_assoc]
    refine readFields_of_value pos (isKey.read _) ?_
    simp [readValue, isSize.read, takeBytes_append]
  | fixed32 isKey size =>
    rw [List.append_assoc]
    refine readFields_of_value pos (isKey.read _) ?_
    simp [readValue, ← size, takeBytes_append]

end SliceSelection.SliceStream
