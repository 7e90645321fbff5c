import Mathlib.Tactic.Common
import SliceSelection.Text.Utf8

/-!
# Bytes that are text

Bytes are read as a text exactly if they are the bytes of that text, so a text has one form in bytes
and every other sequence is refused. Both ways the reader takes the bytes of one character at a
time: the leading byte announces how many follow and what the next may be.
-/

namespace SliceSelection.Text.Utf8

variable {n start : Nat} {b : UInt8} {bs rest : List UInt8}
variable {c : Char} {cs : List Char} {p : Pending}

lemma valid_toNat (c : Char) : c.toNat < 0xD800 ∨ 0xDFFF < c.toNat ∧ c.toNat < 0x110000 := c.valid

lemma toNat_ofNat (valid : n < 0xD800 ∨ 0xDFFF < n ∧ n < 0x110000) : (Char.ofNat n).toNat = n := by
  rw [Char.ofNat, dif_pos valid]
  rfl

lemma toNat_continuation (n : Nat) : (continuation n).toNat = 0x80 + n % 64 := by
  simp [continuation, UInt8.toNat_ofNat']
  omega

/-! ### One byte at a time -/

lemma lead_two (ge : 0xC2 ≤ n) (lt : n < 0xE0) : lead n = some ⟨n - 0xC0, 1, 0x80, 0xBF, 1⟩ := by
  simp [lead, Nat.not_lt.mpr ge, lt]

lemma lead_three (ge : 0xE0 ≤ n) (lt : n < 0xF0) :
    lead n =
      some ⟨n - 0xE0, 2, if n = 0xE0 then 0xA0 else 0x80, if n = 0xED then 0x9F else 0xBF, 1⟩ := by
  have two : ¬n < 0xC2 := by omega
  simp [lead, two, Nat.not_lt.mpr ge, lt]

lemma lead_four (ge : 0xF0 ≤ n) (lt : n < 0xF5) :
    lead n =
      some ⟨n - 0xF0, 3, if n = 0xF0 then 0x90 else 0x80, if n = 0xF4 then 0x8F else 0xBF, 1⟩ := by
  have two : ¬n < 0xC2 := by omega
  have three : ¬n < 0xE0 := by omega
  simp [lead, two, three, Nat.not_lt.mpr ge, lt]

lemma decodeFrom_ascii (ascii : b.toNat < 0x80) :
    decodeFrom start none (b :: bs) =
      (Char.ofNat b.toNat :: ·) <$> decodeFrom (start + 1) none bs := by
  rw [decodeFrom, if_pos ascii]

lemma decodeFrom_lead (large : ¬b.toNat < 0x80) (announces : lead b.toNat = some p) :
    decodeFrom start none (b :: bs) = decodeFrom start (some p) bs := by
  rw [decodeFrom, if_neg large, announces]

lemma decodeFrom_more (within : p.low ≤ b.toNat ∧ b.toNat ≤ p.high) (more : ¬p.owed ≤ 1) :
    decodeFrom start (some p) (b :: bs) =
      decodeFrom start
        (some ⟨p.value * 64 + b.toNat % 64, p.owed - 1, 0x80, 0xBF, p.read + 1⟩) bs := by
  simp [decodeFrom, within, more]

lemma decodeFrom_last (within : p.low ≤ b.toNat ∧ b.toNat ≤ p.high) (last : p.owed ≤ 1) :
    decodeFrom start (some p) (b :: bs) =
      (Char.ofNat (p.value * 64 + b.toNat % 64) :: ·) <$>
        decodeFrom (start + p.read + 1) none bs := by
  simp [decodeFrom, within, last]

/-! ### One character at a time -/

lemma exists_decodeFrom_encodeChar (start : Nat) (c : Char) (rest : List UInt8) :
    ∃ next, decodeFrom start none (encodeChar c ++ rest) =
      (c :: ·) <$> decodeFrom next none rest := by
  have valid := valid_toNat c
  have back : ∀ n, n = c.toNat → Char.ofNat n = c := by
    rintro n rfl
    exact Char.ofNat_toNat c
  unfold encodeChar
  simp only
  split_ifs with one two three
  · have first : (UInt8.ofNat c.toNat).toNat = c.toNat := by simp [UInt8.toNat_ofNat']; omega
    refine ⟨start + 1, ?_⟩
    rw [List.singleton_append, decodeFrom_ascii (by omega), first, back _ rfl]
  · have first : (UInt8.ofNat (0xC0 + c.toNat / 64)).toNat = 0xC0 + c.toNat / 64 := by
      simp [UInt8.toNat_ofNat']; omega
    refine ⟨start + 1 + 1, ?_⟩
    rw [List.cons_append, List.singleton_append,
      decodeFrom_lead (by omega) (lead_two (by omega) (by omega)),
      decodeFrom_last (by simp [toNat_continuation]; omega) (by simp),
      back _ (by simp only [first, toNat_continuation]; omega)]
  · have first : (UInt8.ofNat (0xE0 + c.toNat / 4096)).toNat = 0xE0 + c.toNat / 4096 := by
      simp [UInt8.toNat_ofNat']; omega
    refine ⟨start + 2 + 1, ?_⟩
    rw [List.cons_append, List.cons_append, List.singleton_append,
      decodeFrom_lead (by omega) (lead_three (by omega) (by omega)),
      decodeFrom_more (by simp only [toNat_continuation]; split_ifs <;> omega) (by simp),
      decodeFrom_last (by simp only [toNat_continuation]; omega) (by simp),
      back _ (by simp only [first, toNat_continuation]; omega)]
  · have first : (UInt8.ofNat (0xF0 + c.toNat / 262144)).toNat = 0xF0 + c.toNat / 262144 := by
      simp [UInt8.toNat_ofNat']; omega
    refine ⟨start + 3 + 1, ?_⟩
    rw [List.cons_append, List.cons_append, List.cons_append, List.singleton_append,
      decodeFrom_lead (by omega) (lead_four (by omega) (by omega)),
      decodeFrom_more (by simp only [toNat_continuation]; split_ifs <;> omega) (by simp),
      decodeFrom_more (by simp only [toNat_continuation]; omega) (by simp),
      decodeFrom_last (by simp only [toNat_continuation]; omega) (by simp),
      back _ (by simp only [first, toNat_continuation]; omega)]

lemma exists_of_map_eq_ok {e : Except Fault (List Char)}
    (decoded : (c :: ·) <$> e = .ok cs) : ∃ cs', e = .ok cs' ∧ cs = c :: cs' := by
  cases e with
  | error fault => cases decoded
  | ok cs' => exact ⟨cs', rfl, (Except.ok.inj decoded).symm⟩

/-- Where bytes are owed, there is a next one, and it is within the bounds. -/
lemma exists_of_decodeFrom_some (decoded : decodeFrom start (some p) bs = .ok cs) :
    ∃ b rest, bs = b :: rest ∧ p.low ≤ b.toNat ∧ b.toNat ≤ p.high := by
  rcases bs with _ | ⟨b, rest⟩
  · simp [decodeFrom] at decoded
  · by_cases within : p.low ≤ b.toNat ∧ b.toNat ≤ p.high
    · exact ⟨b, rest, rfl, within⟩
    · simp [decodeFrom, within] at decoded

lemma of_decodeFrom_more (decoded : decodeFrom start (some p) bs = .ok cs) (more : ¬p.owed ≤ 1) :
    ∃ b rest, bs = b :: rest ∧ p.low ≤ b.toNat ∧ b.toNat ≤ p.high ∧
      decodeFrom start
        (some ⟨p.value * 64 + b.toNat % 64, p.owed - 1, 0x80, 0xBF, p.read + 1⟩) rest = .ok cs := by
  obtain ⟨b, rest, rfl, low, high⟩ := exists_of_decodeFrom_some decoded
  rw [decodeFrom_more ⟨low, high⟩ more] at decoded
  exact ⟨b, rest, rfl, low, high, decoded⟩

lemma of_decodeFrom_last (decoded : decodeFrom start (some p) bs = .ok cs) (last : p.owed ≤ 1) :
    ∃ b rest next cs', bs = b :: rest ∧ p.low ≤ b.toNat ∧ b.toNat ≤ p.high ∧
      decodeFrom next none rest = .ok cs' ∧
        cs = Char.ofNat (p.value * 64 + b.toNat % 64) :: cs' := by
  obtain ⟨b, rest, rfl, low, high⟩ := exists_of_decodeFrom_some decoded
  rw [decodeFrom_last ⟨low, high⟩ last] at decoded
  obtain ⟨cs', behind, rfl⟩ := exists_of_map_eq_ok decoded
  exact ⟨b, rest, _, cs', rfl, low, high, behind, rfl⟩

section Written

variable {x y z w : UInt8}

lemma encodeChar_two (ge : 0xC2 ≤ x.toNat) (lt : x.toNat < 0xE0)
    (hy : 0x80 ≤ y.toNat ∧ y.toNat ≤ 0xBF) :
    encodeChar (Char.ofNat ((x.toNat - 0xC0) * 64 + y.toNat % 64)) = [x, y] := by
  unfold encodeChar
  rw [toNat_ofNat (by omega)]
  simp only
  rw [if_neg (by omega), if_pos (by omega)]
  simp [← UInt8.toNat_inj, toNat_continuation]
  omega

lemma encodeChar_three (ge : 0xE0 ≤ x.toNat) (lt : x.toNat < 0xF0)
    (low : (if x.toNat = 0xE0 then 0xA0 else 0x80) ≤ y.toNat)
    (high : y.toNat ≤ if x.toNat = 0xED then 0x9F else 0xBF)
    (hz : 0x80 ≤ z.toNat ∧ z.toNat ≤ 0xBF) :
    encodeChar (Char.ofNat (((x.toNat - 0xE0) * 64 + y.toNat % 64) * 64 + z.toNat % 64)) =
      [x, y, z] := by
  -- The bounds on the second byte leave out shorter forms and surrogates.
  have second : 0x80 ≤ y.toNat ∧ y.toNat ≤ 0xBF ∧ (x.toNat = 0xE0 → 0xA0 ≤ y.toNat) ∧
      (x.toNat = 0xED → y.toNat ≤ 0x9F) := by
    split_ifs at low high <;> omega
  clear low high
  unfold encodeChar
  rw [toNat_ofNat (by omega)]
  simp only
  rw [if_neg (by omega), if_neg (by omega), if_pos (by omega)]
  simp [← UInt8.toNat_inj, toNat_continuation]
  omega

lemma encodeChar_four (ge : 0xF0 ≤ x.toNat) (lt : x.toNat < 0xF5)
    (low : (if x.toNat = 0xF0 then 0x90 else 0x80) ≤ y.toNat)
    (high : y.toNat ≤ if x.toNat = 0xF4 then 0x8F else 0xBF)
    (hz : 0x80 ≤ z.toNat ∧ z.toNat ≤ 0xBF) (hw : 0x80 ≤ w.toNat ∧ w.toNat ≤ 0xBF) :
    encodeChar (Char.ofNat
      ((((x.toNat - 0xF0) * 64 + y.toNat % 64) * 64 + z.toNat % 64) * 64 + w.toNat % 64)) =
      [x, y, z, w] := by
  -- The bounds on the second byte leave out shorter forms and numbers beyond the last character.
  have second : 0x80 ≤ y.toNat ∧ y.toNat ≤ 0xBF ∧ (x.toNat = 0xF0 → 0x90 ≤ y.toNat) ∧
      (x.toNat = 0xF4 → y.toNat ≤ 0x8F) := by
    split_ifs at low high <;> omega
  clear low high
  unfold encodeChar
  rw [toNat_ofNat (by omega)]
  simp only
  rw [if_neg (by omega), if_neg (by omega), if_neg (by omega)]
  simp [← UInt8.toNat_inj, toNat_continuation]
  omega

end Written

/-- Bytes that are read begin with the bytes of the character that is read first. -/
lemma exists_encodeChar_of_decodeFrom (decoded : decodeFrom start none (b :: bs) = .ok cs) :
    ∃ c rest next cs', b :: bs = encodeChar c ++ rest ∧ cs = c :: cs' ∧
      decodeFrom next none rest = .ok cs' := by
  by_cases ascii : b.toNat < 0x80
  · rw [decodeFrom_ascii ascii] at decoded
    obtain ⟨cs', behind, rfl⟩ := exists_of_map_eq_ok decoded
    refine ⟨_, bs, _, cs', ?_, rfl, behind⟩
    unfold encodeChar
    rw [toNat_ofNat (by omega)]
    simp [ascii]
  rcases Nat.lt_or_ge b.toNat 0xC2 with stray | leads
  · have none : lead b.toNat = none := by simp [lead, stray]
    simp [decodeFrom, ascii, none] at decoded
  rcases Nat.lt_or_ge b.toNat 0xE0 with lt | two
  · rw [decodeFrom_lead ascii (lead_two leads lt)] at decoded
    obtain ⟨y, rest, next, cs', rfl, low, high, behind, rfl⟩ :=
      of_decodeFrom_last decoded (by simp)
    exact ⟨_, rest, next, cs', by rw [encodeChar_two leads lt ⟨low, high⟩]; rfl, rfl, behind⟩
  rcases Nat.lt_or_ge b.toNat 0xF0 with lt | three
  · rw [decodeFrom_lead ascii (lead_three two lt)] at decoded
    obtain ⟨y, rest, rfl, low, high, decoded⟩ := of_decodeFrom_more decoded (by simp)
    obtain ⟨z, rest, next, cs', rfl, low', high', behind, rfl⟩ :=
      of_decodeFrom_last decoded (by simp)
    refine ⟨_, rest, next, cs', ?_, rfl, behind⟩
    rw [encodeChar_three two lt low high ⟨low', high'⟩]
    rfl
  rcases Nat.lt_or_ge b.toNat 0xF5 with lt | beyond
  · rw [decodeFrom_lead ascii (lead_four three lt)] at decoded
    obtain ⟨y, rest, rfl, low, high, decoded⟩ := of_decodeFrom_more decoded (by simp)
    obtain ⟨z, rest, rfl, low', high', decoded⟩ := of_decodeFrom_more decoded (by simp)
    obtain ⟨w, rest, next, cs', rfl, low'', high'', behind, rfl⟩ :=
      of_decodeFrom_last decoded (by simp)
    refine ⟨_, rest, next, cs', ?_, rfl, behind⟩
    rw [encodeChar_four three lt low high ⟨low', high'⟩ ⟨low'', high''⟩]
    rfl
  · have none : lead b.toNat = none := by
      simp [lead, Nat.not_lt.mpr leads, Nat.not_lt.mpr two, Nat.not_lt.mpr three,
        Nat.not_lt.mpr beyond]
    simp [decodeFrom, ascii, none] at decoded

/-! ### Texts -/

lemma decodeFrom_encode (start : Nat) (cs : List Char) :
    decodeFrom start none (cs.flatMap encodeChar) = .ok cs := by
  induction cs generalizing start with
  | nil => rfl
  | cons c cs ih =>
    obtain ⟨next, step⟩ := exists_decodeFrom_encodeChar start c (cs.flatMap encodeChar)
    rw [List.flatMap_cons, step, ih]
    rfl

lemma encode_of_decodeFrom (decoded : decodeFrom start none bs = .ok cs) :
    cs.flatMap encodeChar = bs := by
  induction cs generalizing start bs with
  | nil =>
    rcases bs with _ | ⟨b, bs⟩
    · rfl
    · obtain ⟨_, _, _, _, _, empty, _⟩ := exists_encodeChar_of_decodeFrom decoded
      cases empty
  | cons c cs ih =>
    rcases bs with _ | ⟨b, bs⟩
    · cases decoded
    · obtain ⟨c', rest, next, cs', bytes, chars, behind⟩ := exists_encodeChar_of_decodeFrom decoded
      obtain ⟨rfl, rfl⟩ := List.cons.inj chars
      rw [List.flatMap_cons, ih behind, bytes]

/-- Bytes are read as a text exactly if they are the bytes of the text. -/
lemma decode_eq_ok_iff {s : String} : decode bs = .ok s ↔ encode s = bs := by
  constructor
  · intro decoded
    unfold decode at decoded
    cases read : decodeFrom 0 none bs with
    | error fault =>
      rw [read] at decoded
      cases decoded
    | ok cs =>
      rw [read] at decoded
      obtain rfl : String.ofList cs = s := Except.ok.inj decoded
      rw [encode, String.toList_ofList, encode_of_decodeFrom read]
  · rintro rfl
    rw [decode, encode, decodeFrom_encode]
    exact congrArg Except.ok String.ofList_toList

lemma decode_encode (s : String) : decode (encode s) = .ok s := decode_eq_ok_iff.mpr rfl

lemma encode_injective : Function.Injective encode := by
  intro s t same
  have back := decode_encode s
  rw [same, decode_encode] at back
  exact (Except.ok.inj back).symm

end SliceSelection.Text.Utf8
