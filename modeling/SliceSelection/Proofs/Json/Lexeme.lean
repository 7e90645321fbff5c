import Mathlib.Data.List.TakeDrop
import Mathlib.Data.List.TakeWhile
import Mathlib.Tactic.Common
import SliceSelection.Json.Document

/-!
# Reading lexemes back

The text of a lexeme is read as that lexeme: a string literal ends at its own quotation mark and
spells its text, and a number ends where its digits do. Only a number or a word can run into what
stands behind it; `Delimits` says what it may stand before.
-/

namespace SliceSelection.Json

/-! ### Numbers -/

section Numbers

variable {n : Nat} {z : Int}

lemma isDigit_of_mem_toDigits {c : Char} (mem : c ∈ Nat.toDigits 10 n) : c.isDigit = true :=
  Nat.isDigit_of_mem_toDigits (by decide) (by decide) mem

lemma takeWhile_toDigits : (Nat.toDigits 10 n).takeWhile Char.isDigit = Nat.toDigits 10 n :=
  List.takeWhile_eq_self_iff.mpr fun _ => isDigit_of_mem_toDigits

lemma dropWhile_toDigits : (Nat.toDigits 10 n).dropWhile Char.isDigit = [] :=
  List.dropWhile_eq_nil_iff.mpr fun _ => isDigit_of_mem_toDigits

lemma digitsValue_toDigits : digitsValue (Nat.toDigits 10 n) = n := by
  have value : ∀ ds, digitsValue ds = Nat.ofDigitChars 10 ds 0 := by
    intro ds
    simp [digitsValue, Nat.ofDigitChars_eq_foldl, Nat.mul_comm]
  rw [value, Nat.ofDigitChars_ten_toDigits]

lemma head?_toDigits (pos : 0 < n) : (Nat.toDigits 10 n).head? ≠ some '0' := by
  induction n using Nat.base_induction 10 (by decide) with
  | single n small =>
    rw [Nat.toDigits_of_lt_base small]
    simp
    omega
  | digit n k small larger ih =>
    rw [← Nat.toDigits_append_toDigits (by decide) larger small, List.head?_append]
    cases first : (Nat.toDigits 10 n).head? with
    | none => simp at first
    | some d => simpa [first] using ih larger

lemma superfluous_toDigits :
    (Nat.toDigits 10 n).head? = some '0' → (Nat.toDigits 10 n).length ≤ 1 := by
  rcases Nat.eq_zero_or_pos n with rfl | pos
  · simp
  · intro zero
    exact absurd zero (head?_toDigits pos)

lemma number?_toDigits (le : (n : Int) ≤ intMax) : number? (Nat.toDigits 10 n) = some (.int n) := by
  have ge : intMin ≤ n := by unfold intMin; omega
  unfold number?
  split
  next negative unsigned spelled =>
  split at spelled
  · next rest minus =>
    have digit : '-'.isDigit = true := isDigit_of_mem_toDigits (n := n) (by simp [minus])
    cases digit
  · cases spelled
    simpa [takeWhile_toDigits, dropWhile_toDigits, digitsValue_toDigits, isFractionExponent,
      isExponent, ge, le] using superfluous_toDigits

lemma number?_minus (pos : 0 < n) (ge : intMin ≤ -(n : Int)) :
    number? ('-' :: Nat.toDigits 10 n) = some (.int (-n)) := by
  have le : -(n : Int) ≤ intMax := by unfold intMax; omega
  have nonzero : n ≠ 0 := by omega
  simpa [number?, takeWhile_toDigits, dropWhile_toDigits, digitsValue_toDigits, isFractionExponent,
    isExponent, ge, le, nonzero] using superfluous_toDigits

/-- An integer of 64 bits is read back. -/
lemma number?_toString (ge : intMin ≤ z) (le : z ≤ intMax) :
    number? (toString z).toList = some (.int z) := by
  rw [Int.toString_eq_repr, Int.repr_eq_if]
  rcases Int.lt_or_le z 0 with neg | nonneg
  · have back : -((-z).toNat : Int) = z := by omega
    have minus := number?_minus (n := (-z).toNat) (by omega) (back.symm ▸ ge)
    rw [back] at minus
    simpa [Int.not_le.mpr neg] using minus
  · have back : (z.toNat : Int) = z := by omega
    have digits := number?_toDigits (n := z.toNat) (back.symm ▸ le)
    rw [back] at digits
    simpa [nonneg] using digits

lemma isNumberChar_of_mem_toString {c : Char} (mem : c ∈ (toString z).toList) :
    isNumberChar c = true := by
  rw [Int.toString_eq_repr, Int.repr_eq_if] at mem
  split at mem
  · simp [isNumberChar, isDigit_of_mem_toDigits (by simpa using mem)]
  · simp at mem
    rcases mem with rfl | mem
    · rfl
    · simp [isNumberChar, isDigit_of_mem_toDigits mem]

end Numbers

/-! ### String literals -/

/-- The ways in which a character is written in a literal, and the piece that is read there. -/
inductive Escaped (c : Char) : List Char → Piece → Prop where
  | short {d : Char} (stands : shortEscape? d = some c) : Escaped c ['\\', d] (.char c)
  | unit (control : c.toNat < 0x20) :
    Escaped c ['\\', 'u', '0', '0', hexDigit (c.toNat / 16), hexDigit (c.toNat % 16)]
      (.unit c.toNat)
  | plain (printable : ¬c.toNat < 0x20) (quote : c ≠ '"') (backslash : c ≠ '\\') :
    Escaped c [c] (.char c)

lemma exists_escaped (c : Char) : ∃ p, Escaped c (escapeChar c) p := by
  unfold escapeChar
  split_ifs with quote backslash _ _ _ _ _ control
  on_goal 8 => exact ⟨_, .unit control⟩
  on_goal 8 => exact ⟨_, .plain control quote backslash⟩
  all_goals
    subst c
    exact ⟨_, .short rfl⟩

lemma hexValue?_hexDigit : ∀ n < 16, hexValue? (hexDigit n) = some n := by decide

lemma hexDigit_ne : ∀ n < 16, hexDigit n ≠ '"' ∧ hexDigit n ≠ '\\' := by decide

lemma splitLiteral_cons {c : Char} (quote : c ≠ '"') (backslash : c ≠ '\\') (cs : List Char) :
    splitLiteral (c :: cs) = (splitLiteral cs).map fun (body, rest) => (c :: body, rest) := by
  rw [splitLiteral] <;> simp_all

namespace Escaped

variable {c : Char} {written cs : List Char} {p : Piece}

lemma splitLiteral (escaped : Escaped c written p) :
    splitLiteral (written ++ cs) =
      (splitLiteral cs).map fun (body, rest) => (written ++ body, rest) := by
  cases escaped with
  | short => rfl
  | plain _ quote backslash => exact splitLiteral_cons quote backslash cs
  | unit control =>
    have high := hexDigit_ne (c.toNat / 16) (by omega)
    have low := hexDigit_ne (c.toNat % 16) (by omega)
    simp [Json.splitLiteral, splitLiteral_cons, high, low, Function.comp_def]

lemma pieces? (escaped : Escaped c written p) :
    pieces? (written ++ cs) = (pieces? cs).map (p :: ·) := by
  cases escaped with
  | @short d stands =>
    have notUnit : d ≠ 'u' := by
      rintro rfl
      cases stands
    rw [List.cons_append, List.singleton_append, Json.pieces?]
    · rw [stands]
      cases Json.pieces? cs <;> rfl
    · simp [notUnit]
  | plain printable _ backslash =>
    rw [List.singleton_append, Json.pieces?]
    · simp [printable, backslash]
    all_goals simp [backslash]
  | unit control =>
    have value :
        unit? '0' '0' (hexDigit (c.toNat / 16)) (hexDigit (c.toNat % 16)) = some c.toNat := by
      have zero : hexValue? '0' = some 0 := rfl
      simp [unit?, zero, hexValue?_hexDigit (c.toNat / 16) (by omega),
        hexValue?_hexDigit (c.toNat % 16) (by omega)]
      omega
    simp [Json.pieces?, value]
    cases Json.pieces? cs <;> rfl

lemma joinPieces? (escaped : Escaped c written p) (ps : List Piece) :
    joinPieces? (p :: ps) = (joinPieces? ps).map (c :: ·) := by
  cases escaped with
  | short | plain => rfl
  | unit control =>
    have high : isHighSurrogate c.toNat = false := by
      simp [isHighSurrogate]
      omega
    have low : isLowSurrogate c.toNat = false := by
      simp [isLowSurrogate]
      omega
    rcases ps with _ | ⟨_ | _, ps⟩ <;> simp [Json.joinPieces?, high, low]

end Escaped

lemma splitLiteral_escaped (cs rest : List Char) :
    splitLiteral (cs.flatMap escapeChar ++ '"' :: rest) = some (cs.flatMap escapeChar, rest) := by
  induction cs with
  | nil => rfl
  | cons c cs ih =>
    obtain ⟨p, escaped⟩ := exists_escaped c
    rw [List.flatMap_cons, List.append_assoc, escaped.splitLiteral, ih]
    rfl

/-- The characters of a literal spell the text that they were written for. -/
lemma literal?_escaped (s : String) :
    literal? (s.toList.flatMap escapeChar) = some (.string (some s)) := by
  have spelled : ∀ cs : List Char, ∃ ps,
      pieces? (cs.flatMap escapeChar) = some ps ∧ joinPieces? ps = some cs := by
    intro cs
    induction cs with
    | nil => exact ⟨[], rfl, rfl⟩
    | cons c cs ih =>
      obtain ⟨ps, pieces, joined⟩ := ih
      obtain ⟨p, escaped⟩ := exists_escaped c
      refine ⟨p :: ps, ?_, ?_⟩
      · rw [List.flatMap_cons, escaped.pieces?, pieces]
        rfl
      · rw [escaped.joinPieces?, joined]
        rfl
  obtain ⟨ps, pieces, joined⟩ := spelled s.toList
  simp [literal?, pieces, joined]

/-! ### Lexemes -/

/-- Whether characters end a number or a word that stands before them. -/
def Delimits (rest : List Char) : Prop :=
  ∀ c ∈ rest.head?, isNumberChar c = false ∧ c.isAlpha = false

namespace Token

variable {rest : List Char}

lemma ofText?_string (s : String) (rest : List Char) :
    ofText? (text (.string (some s)) ++ rest) = (ofText? rest).map (.string (some s) :: ·) := by
  have split := splitLiteral_escaped s.toList rest
  simp only [text, Option.getD_some, List.cons_append, List.append_assoc, List.nil_append]
  rw [ofText?, if_neg (by decide), if_pos rfl]
  split
  · next body rest' found =>
    obtain ⟨rfl, rfl⟩ : s.toList.flatMap escapeChar = body ∧ rest = rest' := by
      simpa [split] using found
    rw [literal?_escaped]
    cases ofText? rest <;> rfl
  · next failed => simp [split] at failed

lemma ofText?_punctuation {t : Token} {c : Char} (spelled : t.text = [c])
    (stands : punctuation? c = some t) (rest : List Char) :
    ofText? (t.text ++ rest) = (ofText? rest).map (t :: ·) := by
  have marks : c ∈ ['[', ']', '\x7b', '\x7d', ',', ':'] := by
    unfold punctuation? at stands
    split at stands <;> simp_all
  have only : ∀ c ∈ ['[', ']', '\x7b', '\x7d', ',', ':'],
      isSpace c = false ∧ c ≠ '"' ∧ isNumberChar c = false ∧ c.isAlpha = false := by
    simp [isSpace, isNumberChar]
  obtain ⟨space, quote, number, letter⟩ := only c marks
  rw [spelled, List.singleton_append, ofText?]
  simp [space, quote, number, letter, stands]
  cases ofText? rest <;> rfl

lemma takeWhile_of_delimits {p : Char → Bool} {cs : List Char} (all : ∀ c ∈ cs, p c = true)
    (ends : ∀ c ∈ rest.head?, p c = false) :
    (cs ++ rest).takeWhile p = cs ∧ (cs ++ rest).dropWhile p = rest := by
  rw [List.takeWhile_append_of_pos all, List.dropWhile_append_of_pos all]
  rcases rest with _ | ⟨c, rest⟩
  · simp
  · simp [ends c rfl]

lemma ofText?_int {z : Int} (ge : intMin ≤ z) (le : z ≤ intMax) (delimits : Delimits rest) :
    ofText? (text (.int z) ++ rest) = (ofText? rest).map (.int z :: ·) := by
  have number := number?_toString ge le
  have chars : ∀ c ∈ (toString z).toList, isNumberChar c = true :=
    fun _ => isNumberChar_of_mem_toString
  rw [text]
  cases spelled : (toString z).toList with
  | nil =>
    rw [spelled] at number
    cases number
  | cons c cs =>
    rw [spelled] at number chars
    rw [List.forall_mem_cons] at chars
    obtain ⟨whole, behind⟩ := takeWhile_of_delimits chars.2 fun c hc => (delimits c hc).1
    have space : isSpace c = false := by
      rw [Bool.eq_false_iff]
      intro blank
      simp only [isSpace, Bool.or_eq_true, beq_iff_eq] at blank
      rcases blank with ((rfl | rfl) | rfl) | rfl <;> cases chars.1
    have quote : c ≠ '"' := by
      rintro rfl
      cases chars.1
    rw [List.cons_append, ofText?]
    simp [space, quote, chars.1, whole, behind, number]
    cases ofText? rest <;> rfl

lemma ofText?_word {t : Token} {c : Char} {cs : List Char} (spells : word? (c :: cs) = some t)
    (first : isSpace c = false ∧ c ≠ '"' ∧ isNumberChar c = false)
    (letters : (c :: cs).all Char.isAlpha = true) (delimits : Delimits rest) :
    ofText? (c :: cs ++ rest) = (ofText? rest).map (t :: ·) := by
  obtain ⟨space, quote, number⟩ := first
  rw [List.all_eq_true, List.forall_mem_cons] at letters
  obtain ⟨whole, behind⟩ := takeWhile_of_delimits letters.2 fun c hc => (delimits c hc).2
  rw [List.cons_append, ofText?]
  simp [space, quote, number, letters.1, whole, behind, spells]
  cases ofText? rest <;> rfl

end Token

end SliceSelection.Json
