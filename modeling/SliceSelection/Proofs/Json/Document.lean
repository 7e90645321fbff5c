import SliceSelection.Proofs.Json.Lexeme

/-!
# Reading documents back

A value that consists of texts and of integers of 64 bits has a compact text, and that text is read
as the value. The text is split into the lexemes that it was made of, whatever they spell; and the
machine that takes them comes, from any stack, to stand behind the value.
-/

namespace SliceSelection.Json

/-- A value that has a text: strings and keys are texts, and numbers are integers of 64 bits. -/
inductive Writable : Json → Prop where
  | null : Writable .null
  | bool (b : Bool) : Writable (.bool b)
  | int {n : Int} (ge : intMin ≤ n) (le : n ≤ intMax) : Writable (.int n)
  | string (s : String) : Writable (ofString s)
  | array {items : List Json} (all : ∀ j ∈ items, Writable j) : Writable (.array items)
  | object {members : List (Option String × Json)} (keys : ∀ m ∈ members, ∃ key, m.1 = some key)
    (values : ∀ m ∈ members, Writable m.2) : Writable (.object members)

/-! ### Splitting -/

section Splitting

variable {t : Token} {ts us : List Token}

/-- Lexemes whose text is split into them, whatever delimits it. -/
def Splits (ts : List Token) : Prop :=
  ∀ rest, Delimits rest →
    Token.ofText? (ts.flatMap Token.text ++ rest) = (Token.ofText? rest).map (ts ++ ·)

/-- Lexemes whose text delimits a lexeme before them. -/
def Bounds (ts : List Token) : Prop := ∀ rest, Delimits (ts.flatMap Token.text ++ rest)

lemma delimits_nil : Delimits [] := by simp [Delimits]

lemma Bounds.of_mark (mark : t ∈ [.comma, .colon, .closeArray, .closeObject]) (ts : List Token) :
    Bounds (t :: ts) := by
  intro rest
  simp only [List.mem_cons, List.not_mem_nil, or_false] at mark
  rcases mark with rfl | rfl | rfl | rfl <;> simp [Token.text, Delimits] <;> decide

namespace Splits

lemma nil : Splits [] := by
  intro rest _
  simp

lemma of_lexeme
    (lexeme : ∀ rest, Delimits rest →
      Token.ofText? (t.text ++ rest) = (Token.ofText? rest).map (t :: ·)) : Splits [t] := by
  intro rest delimits
  simpa using lexeme rest delimits

/-- A lexeme that runs into nothing is split off. -/
lemma cons (head : ∀ rest, Token.ofText? (t.text ++ rest) = (Token.ofText? rest).map (t :: ·))
    (tail : Splits ts) : Splits (t :: ts) := by
  intro rest delimits
  rw [List.flatMap_cons, List.append_assoc, head, tail rest delimits, Option.map_map]
  rfl

lemma mark {c : Char} (spelled : t.text = [c]) (stands : Token.punctuation? c = some t)
    (tail : Splits ts) : Splits (t :: ts) :=
  .cons (Token.ofText?_punctuation spelled stands) tail

lemma string (s : String) (tail : Splits ts) : Splits (.string (some s) :: ts) :=
  .cons (Token.ofText?_string s) tail

lemma append (head : Splits ts) (tail : Splits us) (bounds : Bounds us) : Splits (ts ++ us) := by
  intro rest delimits
  rw [List.flatMap_append, List.append_assoc, head _ (bounds rest), tail rest delimits,
    Option.map_map]
  simp [Function.comp_def]

end Splits

lemma splits_items {items : List Json} (all : ∀ j ∈ items, Splits j.tokens) :
    Splits (itemTokens items ++ [.closeArray]) ∧ Bounds (itemTokens items ++ [.closeArray]) := by
  induction items with
  | nil => exact ⟨.mark rfl rfl .nil, .of_mark (by simp) _⟩
  | cons j items ih =>
    rw [List.forall_mem_cons] at all
    obtain ⟨split, bounds⟩ := ih all.2
    simp only [itemTokens, List.cons_append, List.append_assoc]
    exact ⟨.mark rfl rfl (.append all.1 split bounds), .of_mark (by simp) _⟩

lemma splits_members {members : List (Option String × Json)}
    (keys : ∀ m ∈ members, ∃ key, m.1 = some key) (all : ∀ m ∈ members, Splits m.2.tokens) :
    Splits (memberTokens members ++ [.closeObject]) ∧
      Bounds (memberTokens members ++ [.closeObject]) := by
  induction members with
  | nil => exact ⟨.mark rfl rfl .nil, .of_mark (by simp) _⟩
  | cons m members ih =>
    rw [List.forall_mem_cons] at keys all
    obtain ⟨split, bounds⟩ := ih keys.2 all.2
    obtain ⟨key, j⟩ := m
    obtain ⟨key, rfl⟩ := keys.1
    simp only [memberTokens, List.cons_append, List.append_assoc]
    refine ⟨.mark rfl rfl (.string key (.mark rfl rfl ?_)), .of_mark (by simp) _⟩
    exact .append all.1 split bounds

lemma splits_tokens {j : Json} (writable : j.Writable) : Splits j.tokens := by
  induction writable with
  | null => exact .of_lexeme fun _ => Token.ofText?_word rfl (by decide) rfl
  | bool b =>
    cases b <;> exact .of_lexeme fun _ => Token.ofText?_word rfl (by decide) rfl
  | int ge le => exact .of_lexeme fun _ => Token.ofText?_int ge le
  | string s => exact .string s .nil
  | @array items _ ih =>
    rcases items with _ | ⟨j, items⟩
    · exact .mark rfl rfl (.mark rfl rfl .nil)
    · rw [List.forall_mem_cons] at ih
      obtain ⟨split, bounds⟩ := splits_items ih.2
      simp only [tokens, List.cons_append, List.append_assoc]
      exact .mark rfl rfl (.append ih.1 split bounds)
  | @object members keys _ ih =>
    rcases members with _ | ⟨⟨key, j⟩, members⟩
    · exact .mark rfl rfl (.mark rfl rfl .nil)
    · rw [List.forall_mem_cons] at keys ih
      obtain ⟨key, rfl⟩ := keys.1
      obtain ⟨split, bounds⟩ := splits_members keys.2 ih.2
      simp only [tokens, List.cons_append, List.append_assoc]
      exact .mark rfl rfl (.string key (.mark rfl rfl (.append ih.1 split bounds)))

end Splitting

/-! ### The machine -/

namespace Machine

variable {t : Token} {stack : List Frame} {rest : List Token}

@[simp] lemma run_nil (m : Machine) : run m [] = some m := rfl

@[simp] lemma run_cons (m : Machine) : run m (t :: rest) = (step m t).bind (run · rest) := rfl

/-- The first lexeme of a value is that of an item, and not the end of an array. -/
lemma run_firstItem (j : Json) :
    run ⟨stack, .firstItem⟩ (j.tokens ++ rest) =
      run ⟨.array [] :: stack, .value⟩ (j.tokens ++ rest) := by
  rcases j with _ | _ | _ | _ | _ | ⟨_ | _⟩ | ⟨_ | _⟩ <;> rfl

mutual

theorem run_tokens (stack : List Frame) (rest : List Token) (j : Json) :
    run ⟨stack, .value⟩ (j.tokens ++ rest) = run ⟨stack, .after j⟩ rest := by
  match j with
  | .null | .bool _ | .int _ | .decimal _ | .string _ | .array [] | .object [] => rfl
  | .array (j :: items) =>
    have behind := run_itemTokens stack rest [] j items
    simp [tokens, step, startValue, run_firstItem, run_tokens, behind]
  | .object ((key, j) :: members) =>
    have behind := run_memberTokens stack rest [] key j members
    simp [tokens, step, startValue, run_tokens, behind]

theorem run_itemTokens (stack : List Frame) (rest : List Token) (before : List Json) (j : Json)
    (items : List Json) :
    run ⟨.array before :: stack, .after j⟩ (itemTokens items ++ .closeArray :: rest) =
      run ⟨stack, .after (.array (before.reverse ++ j :: items))⟩ rest := by
  match items with
  | [] => simp [itemTokens, step, endValue]
  | i :: items =>
    have behind := run_itemTokens stack rest (j :: before) i items
    simp [itemTokens, step, endValue, run_tokens, behind]

theorem run_memberTokens (stack : List Frame) (rest : List Token)
    (before : List (Option String × Json)) (key : Option String) (j : Json)
    (members : List (Option String × Json)) :
    run ⟨.object before key :: stack, .after j⟩ (memberTokens members ++ .closeObject :: rest) =
      run ⟨stack, .after (.object (before.reverse ++ (key, j) :: members))⟩ rest := by
  match members with
  | [] => simp [memberTokens, step, endValue]
  | (next, i) :: members =>
    have behind := run_memberTokens stack rest ((key, j) :: before) next i members
    simp [memberTokens, step, endValue, run_tokens, behind]

end

end Machine

lemma ofTokens?_tokens (j : Json) : ofTokens? j.tokens = some j := by
  have read := Machine.run_tokens [] [] j
  rw [List.append_nil] at read
  rw [ofTokens?, read]
  rfl

/-- The text of a value is read as that value. -/
theorem parse?_text {j : Json} (writable : j.Writable) : parse? j.text = some j := by
  have split := splits_tokens writable [] delimits_nil
  rw [List.append_nil] at split
  simp [parse?, text, split, Token.ofText?, ofTokens?_tokens]

end SliceSelection.Json
