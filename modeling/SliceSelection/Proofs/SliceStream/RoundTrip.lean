import SliceSelection.Proofs.SliceStream.Fields
import SliceSelection.Proofs.Text.Utf8
import SliceSelection.SliceStream.Wire

/-!
# Messages that are read back

A message that was written is read as it was, part for part: what is left out for being the default
comes back as the default, and an inner message that is there, be it all default, does not become
one that is absent. Fields that a message does not have may stand anywhere between its own, and the
message that is read is the same.
-/

namespace SliceSelection.SliceStream

variable {α β : Type} {take : α → Field → Option α} {depth number : Nat} {a b c : α}
variable {bs bytes wire : Bytes} {f : Field} {declared : List Nat}

/-! ### Fields that are written -/

lemma spells_writeNumber {n : Nat} (valid : IsNumber number) (small : n < UInt64.size) :
    Field.Spells ⟨number, .varint n⟩ (writeNumber number n) :=
  .varint (isKey_writeKey valid) (varint_writeVarint small)

lemma spells_writeBytes (valid : IsNumber number) (fits : bytes.length < UInt64.size) :
    Field.Spells ⟨number, .bytes bytes⟩ (writeBytes number bytes) := by
  rw [writeBytes, List.append_assoc]
  exact .bytes (isKey_writeKey valid) (varint_writeVarint fits)

lemma length_le_writeBytes : bytes.length ≤ (writeBytes number bytes).length := by
  rw [writeBytes, List.length_append]
  exact Nat.le_add_left _ _

lemma writeText_cases {s : String} (valid : IsNumber number)
    (fits : (writeText number s).length < UInt64.size) :
    s = "" ∧ writeText number s = [] ∨
      Field.Spells ⟨number, .bytes (Text.Utf8.encode s)⟩ (writeText number s) := by
  unfold writeText at fits ⊢
  split_ifs at fits ⊢ with empty
  · exact .inl ⟨String.isEmpty_iff.1 empty, rfl⟩
  · exact .inr (spells_writeBytes valid (Nat.lt_of_le_of_lt length_le_writeBytes fits))

lemma writeCounter_cases (n : UInt32) (valid : IsNumber number) :
    n = 0 ∧ writeCounter number n = [] ∨
      Field.Spells ⟨number, .varint n.toNat⟩ (writeCounter number n) := by
  unfold writeCounter
  split_ifs with zero
  · exact .inl ⟨zero, rfl⟩
  · exact .inr (spells_writeNumber valid (Nat.lt_trans n.toNat_lt (by decide)))

@[simp]
lemma Value.text?_encode (s : String) : (Value.bytes (Text.Utf8.encode s)).text? = some s := by
  simp [Value.text?, Text.Utf8.decode_encode, Except.toOption]

@[simp]
lemma Value.counter?_toNat (n : UInt32) : (Value.varint n.toNat).counter? = some n := by
  simp [Value.counter?]

/-! ### Taking fields one by one -/

lemma mergeFields_nil : mergeFields depth take a [] = some a := by
  simp [mergeFields, readFields]

lemma Field.Spells.mergeFields (spells : f.Spells bs) (shallow : depth < maxDepth) (rest : Bytes) :
    mergeFields depth take a (bs ++ rest) =
      (take a f).bind fun b => SliceStream.mergeFields depth take b rest := by
  have budget : 0 < maxDepth - depth := Nat.sub_pos_of_lt shallow
  simp only [SliceStream.mergeFields, spells.read budget]
  cases readFields (maxDepth - depth) [] rest with
  | none => cases take a f <;> rfl
  | some fs => rfl

/-- Bytes before the rest of a message turn what was taken into something else. -/
def Turns (depth : Nat) (take : α → Field → Option α) (a : α) (bytes : Bytes) (b : α) : Prop :=
  ∀ rest, mergeFields depth take a (bytes ++ rest) = mergeFields depth take b rest

namespace Turns

lemma nil : Turns depth take a [] a := fun _ => rfl

lemma append (first : Turns depth take a bs b) (second : Turns depth take b bytes c) :
    Turns depth take a (bs ++ bytes) c := by
  intro rest
  rw [List.append_assoc, first, second]

lemma mergeFields_eq (turns : Turns depth take a bytes b) :
    mergeFields depth take a bytes = some b := by
  have whole := turns []
  rwa [List.append_nil, mergeFields_nil] at whole

lemma field (spells : f.Spells bs) (shallow : depth < maxDepth) (taken : take a f = some b) :
    Turns depth take a bs b := by
  intro rest
  rw [spells.mergeFields shallow, taken, Option.bind_some]

lemma text {s : String} (valid : IsNumber number) (shallow : depth < maxDepth)
    (fits : (writeText number s).length < UInt64.size)
    (taken : take a ⟨number, .bytes (Text.Utf8.encode s)⟩ = some b)
    (same : s = "" → b = a) :
    Turns depth take a (writeText number s) b := by
  rcases writeText_cases valid fits with ⟨empty, none⟩ | spells
  · rw [same empty, none]
    exact nil
  · exact field spells shallow taken

lemma counter {n : UInt32} (valid : IsNumber number) (shallow : depth < maxDepth)
    (taken : take a ⟨number, .varint n.toNat⟩ = some b) (same : n = 0 → b = a) :
    Turns depth take a (writeCounter number n) b := by
  rcases writeCounter_cases n valid with ⟨zero, none⟩ | spells
  · rw [same zero, none]
    exact nil
  · exact field spells shallow taken

lemma inner {write : β → Bytes} {o : Option β} (valid : IsNumber number)
    (shallow : depth < maxDepth) (fits : (writeInner number write o).length < UInt64.size)
    (taken : ∀ i, o = some i → (write i).length < UInt64.size →
      take a ⟨number, .bytes (write i)⟩ = some b)
    (same : o = none → b = a) :
    Turns depth take a (writeInner number write o) b := by
  cases o with
  | none =>
    rw [same rfl]
    exact nil
  | some i =>
    have fits : (write i).length < UInt64.size := Nat.lt_of_le_of_lt length_le_writeBytes fits
    exact field (spells_writeBytes valid fits) shallow (taken i rfl fits)

end Turns

/-! ### Inner messages -/

lemma mergePlmn_writePlmn {p : PlmnId} (shallow : depth < maxDepth)
    (fits : (writePlmn p).length < UInt64.size) :
    mergePlmn depth ⟨"", ""⟩ (writePlmn p) = some p := by
  obtain ⟨mcc, mnc⟩ := p
  rw [writePlmn, List.length_append] at fits
  apply Turns.mergeFields_eq
  apply Turns.append (b := ⟨mcc, ""⟩)
  · exact .text (by decide) shallow (by omega) (by simp) (by rintro rfl; rfl)
  · exact .text (by decide) shallow (by omega) (by simp) (by rintro rfl; rfl)

lemma StreamedNssai.merge_toBytes {n : StreamedNssai} (shallow : depth < maxDepth)
    (fits : n.toBytes.length < UInt64.size) :
    StreamedNssai.merge depth ⟨"", ""⟩ n.toBytes = some n := by
  obtain ⟨sst, sd⟩ := n
  rw [toBytes, List.length_append] at fits
  apply Turns.mergeFields_eq
  apply Turns.append (b := ⟨sst, ""⟩)
  · exact .text (by decide) shallow (by omega) (by simp) (by rintro rfl; rfl)
  · exact .text (by decide) shallow (by omega) (by simp) (by rintro rfl; rfl)

lemma Site.merge_toBytes {s : Site} (shallow : depth + 1 < maxDepth)
    (fits : s.toBytes.length < UInt64.size) :
    Site.merge depth ⟨"", none⟩ s.toBytes = some s := by
  obtain ⟨name, plmn⟩ := s
  rw [toBytes, List.length_append] at fits
  apply Turns.mergeFields_eq
  apply Turns.append (b := ⟨name, none⟩)
  · exact .text (by decide) (by omega) (by omega) (by simp) (by rintro rfl; rfl)
  · refine .inner (by decide) (by omega) (by omega) ?_ (by rintro rfl; rfl)
    rintro p rfl fits
    simp [Value.inner?, mergePlmn_writePlmn shallow fits]

lemma Slice.merge_toBytes {i : Slice} (shallow : depth + 2 < maxDepth)
    (fits : i.toBytes.length < UInt64.size) :
    Slice.merge depth ⟨"", none, none⟩ i.toBytes = some i := by
  obtain ⟨name, nssai, site⟩ := i
  rw [toBytes, List.length_append, List.length_append] at fits
  apply Turns.mergeFields_eq
  apply Turns.append (b := ⟨name, nssai, none⟩)
  · apply Turns.append (b := ⟨name, none, none⟩)
    · exact .text (by decide) (by omega) (by omega) (by simp) (by rintro rfl; rfl)
    · refine .inner (by decide) (by omega) (by omega) ?_ (by rintro rfl; rfl)
      rintro n rfl fits
      simp [Value.inner?, StreamedNssai.merge_toBytes (Nat.lt_of_succ_lt shallow) fits]
  · refine .inner (by decide) (by omega) (by omega) ?_ (by rintro rfl; rfl)
    rintro t rfl fits
    simp [Value.inner?, Site.merge_toBytes shallow fits]

/-! ### Messages -/

lemma Snapshot.turns_slices {take : Snapshot → Field → Option Snapshot} {slices : List Slice}
    (taken : ∀ (s : Snapshot) (i : Slice), i.toBytes.length < UInt64.size →
      take s ⟨1, .bytes i.toBytes⟩ = some { s with slices := s.slices ++ [i] })
    (fits : ∀ i ∈ slices, i.toBytes.length < UInt64.size) (s : Snapshot) :
    Turns 0 take s (slices.flatMap fun i => writeBytes 1 i.toBytes)
      { s with slices := s.slices ++ slices } := by
  induction slices generalizing s with
  | nil => simpa using Turns.nil
  | cons i slices ih =>
    rw [List.forall_mem_cons] at fits
    rw [List.flatMap_cons]
    refine .append (.field (spells_writeBytes (by decide) fits.1) (by decide) (taken s i fits.1)) ?_
    simpa using ih fits.2 { s with slices := s.slices ++ [i] }

lemma Snapshot.length_toBytes_le {s : Snapshot} {i : Slice} (mem : i ∈ s.slices) :
    i.toBytes.length ≤ s.toBytes.length := by
  have among : writeBytes 1 i.toBytes ∈ s.slices.map fun i => writeBytes 1 i.toBytes :=
    List.mem_map_of_mem mem
  calc i.toBytes.length
      ≤ (writeBytes 1 i.toBytes).length := length_le_writeBytes
    _ ≤ (s.slices.map fun i => writeBytes 1 i.toBytes).flatten.length :=
        (List.sublist_flatten_of_mem among).length_le
    _ ≤ s.toBytes.length := by
        rw [toBytes, List.length_append, List.length_append, List.flatMap_def]
        omega

lemma Snapshot.ofBytes?_toBytes {s : Snapshot} (fits : s.toBytes.length < UInt64.size) :
    Snapshot.ofBytes? s.toBytes = some s := by
  have sizes : ∀ i ∈ s.slices, i.toBytes.length < UInt64.size :=
    fun i mem => Nat.lt_of_le_of_lt (length_toBytes_le mem) fits
  obtain ⟨slices, restartCounter, configUpdated⟩ := s
  apply Turns.mergeFields_eq
  apply Turns.append (b := ⟨slices, restartCounter, 0⟩)
  · apply Turns.append (b := ⟨slices, 0, 0⟩)
    · refine turns_slices (fun s i fits => ?_) sizes ⟨[], 0, 0⟩
      have shallow : 1 + 2 < maxDepth := by decide
      simp [Value.inner?, Slice.merge_toBytes shallow fits]
    · exact .counter (by decide) (by decide) (by simp) (by rintro rfl; rfl)
  · exact .counter (by decide) (by decide) (by simp) (by rintro rfl; rfl)

lemma Subscription.ofBytes?_toBytes {s : Subscription} (fits : s.toBytes.length < UInt64.size) :
    Subscription.ofBytes? s.toBytes = some s := by
  obtain ⟨restartCounter, clientId⟩ := s
  rw [toBytes, List.length_append] at fits
  apply Turns.mergeFields_eq
  apply Turns.append (b := ⟨restartCounter, ""⟩)
  · exact .counter (by decide) (by decide) (by simp) (by rintro rfl; rfl)
  · exact .text (by decide) (by decide) (by omega) (by simp) (by rintro rfl; rfl)

/-! ### Foreign fields -/

/-- Bytes spell the same fields as others do, and between them fields of numbers that are not
declared. -/
inductive Extension (declared : List Nat) : Bytes → Bytes → Prop where
  | done : Extension declared [] []
  | own {f : Field} {bs bytes wire : Bytes} (spells : f.Spells bs)
    (rest : Extension declared bytes wire) : Extension declared (bs ++ bytes) (bs ++ wire)
  | foreign {f : Field} {bs bytes wire : Bytes} (spells : f.Spells bs)
    (undeclared : f.number ∉ declared) (rest : Extension declared bytes wire) :
    Extension declared bytes (bs ++ wire)

namespace Extension

lemma mergeFields_eq (extension : Extension declared bytes wire) (shallow : depth < maxDepth)
    (ignored : ∀ a f, f.number ∉ declared → take a f = some a) :
    mergeFields depth take a wire = mergeFields depth take a bytes := by
  induction extension generalizing a with
  | done => rfl
  | own spells _ ih =>
    rw [spells.mergeFields shallow, spells.mergeFields shallow]
    exact congrArg _ (funext fun _ => ih)
  | foreign spells undeclared _ ih =>
    rw [spells.mergeFields shallow, ignored _ _ undeclared, Option.bind_some, ih]

lemma append {first second : Bytes} (left : Extension declared bs first)
    (right : Extension declared bytes second) :
    Extension declared (bs ++ bytes) (first ++ second) := by
  induction left with
  | done => exact right
  | own spells _ ih =>
    rw [List.append_assoc, List.append_assoc]
    exact own spells ih
  | foreign spells undeclared _ ih =>
    rw [List.append_assoc]
    exact foreign spells undeclared ih

lemma field (spells : f.Spells bs) : Extension declared bs bs := by
  simpa using own spells (.done : Extension declared [] [])

lemma text {s : String} (valid : IsNumber number)
    (fits : (writeText number s).length < UInt64.size) :
    Extension declared (writeText number s) (writeText number s) := by
  rcases writeText_cases valid fits with ⟨_, none⟩ | spells
  · rw [none]
    exact done
  · exact field spells

lemma counter {n : UInt32} (valid : IsNumber number) :
    Extension declared (writeCounter number n) (writeCounter number n) := by
  rcases writeCounter_cases n valid with ⟨_, none⟩ | spells
  · rw [none]
    exact done
  · exact field spells

lemma flatMap {l : List β} {write : β → Bytes}
    (each : ∀ i ∈ l, Extension declared (write i) (write i)) :
    Extension declared (l.flatMap write) (l.flatMap write) := by
  induction l with
  | nil => exact done
  | cons i l ih =>
    rw [List.forall_mem_cons] at each
    exact append each.1 (ih each.2)

end Extension

/-- A message is read off its bytes, also where fields that it does not declare stand between its
own, and no other message has these bytes. -/
structure ReadsBack (ofBytes? : Bytes → Option α) (toBytes : α → Bytes) (declared : List Nat)
    (m : α) : Prop where
  back : ofBytes? (toBytes m) = some m
  fields : Extension declared (toBytes m) (toBytes m)
  extended : ∀ wire, Extension declared (toBytes m) wire → ofBytes? wire = some m
  apart : ∀ other, toBytes other = toBytes m → other = m

lemma ReadsBack.of_back {toBytes : α → Bytes} (fits : (toBytes a).length < UInt64.size)
    (back : ∀ m, (toBytes m).length < UInt64.size → mergeFields 0 take b (toBytes m) = some m)
    (ignored : ∀ a f, f.number ∉ declared → take a f = some a)
    (fields : Extension declared (toBytes a) (toBytes a)) :
    ReadsBack (mergeFields 0 take b) toBytes declared a where
  back := back a fits
  fields := fields
  extended := by
    intro wire extension
    rw [extension.mergeFields_eq (by decide) ignored, back a fits]
  apart := by
    intro other same
    have read := back other (same ▸ fits)
    rw [same, back a fits] at read
    exact (Option.some.inj read).symm

lemma Snapshot.readsBack {s : Snapshot} (fits : s.toBytes.length < UInt64.size) :
    ReadsBack Snapshot.ofBytes? Snapshot.toBytes [1, 2, 3] s := by
  refine .of_back fits (fun _ => ofBytes?_toBytes) (fun s f undeclared => ?_) ?_
  · split <;> simp_all
  · refine .append (.append (.flatMap fun i mem => ?_) (.counter (by decide)))
      (.counter (by decide))
    have size := Nat.lt_of_le_of_lt (length_toBytes_le mem) fits
    exact .field (spells_writeBytes (by decide) size)

lemma Subscription.readsBack {s : Subscription} (fits : s.toBytes.length < UInt64.size) :
    ReadsBack Subscription.ofBytes? Subscription.toBytes [1, 2] s := by
  refine .of_back fits (fun _ => ofBytes?_toBytes) (fun s f undeclared => ?_) ?_
  · split <;> simp_all
  · rw [toBytes, List.length_append] at fits
    exact .append (.counter (by decide)) (.text (by decide) (by omega))

/-- The messages of the stream are read back, if 64 bits can count their bytes. -/
theorem messages_readBack :
    (∀ s : Snapshot, s.toBytes.length < UInt64.size →
      ReadsBack Snapshot.ofBytes? Snapshot.toBytes [1, 2, 3] s) ∧
    ∀ s : Subscription, s.toBytes.length < UInt64.size →
      ReadsBack Subscription.ofBytes? Subscription.toBytes [1, 2] s :=
  ⟨fun _ => Snapshot.readsBack, fun _ => Subscription.readsBack⟩

theorem messages_readBack_among_foreign :
    Snapshot.ofBytes? (writeNumber 4 128 ++
      (writeBytes 1 (Slice.toBytes ⟨"edge", some ⟨"", ""⟩, none⟩) ++
        (writeKey 7 .fixed32 ++ [1, 2, 3, 4] ++ writeNumber 3 1))) =
      some ⟨[⟨"edge", some ⟨"", ""⟩, none⟩], 0, 1⟩ ∧
    Subscription.ofBytes? (writeBytes 9 [0] ++ Subscription.toBytes ⟨5, ""⟩) = some ⟨5, ""⟩ := by
  constructor
  · have name : Text.Utf8.encode "edge" = [101, 100, 103, 101] := by decide
    have bytes : Snapshot.toBytes ⟨[⟨"edge", some ⟨"", ""⟩, none⟩], 0, 1⟩ =
        writeBytes 1 (Slice.toBytes ⟨"edge", some ⟨"", ""⟩, none⟩) ++ writeNumber 3 1 := by
      simp [Snapshot.toBytes, writeCounter]
    have slice : (Slice.toBytes ⟨"edge", some ⟨"", ""⟩, none⟩).length = 8 := by
      simp [Slice.toBytes, StreamedNssai.toBytes, writeText, writeInner, name, writeBytes, writeKey,
        writeVarint_of_lt, Shape.code]
    refine (messages_readBack.1 _ ?_).extended _ ?_ <;> rw [bytes]
    · simp [slice, writeBytes, writeNumber, writeKey, writeVarint_of_lt, Shape.code, UInt64.size]
    · refine .foreign (spells_writeNumber (by decide) (by decide)) (by decide) ?_
      refine .own (spells_writeBytes (by decide) (by rw [slice]; decide)) ?_
      refine .foreign (.fixed32 (isKey_writeKey (by decide)) rfl) (by decide) ?_
      exact .field (spells_writeNumber (by decide) (by decide))
  · have laws := messages_readBack.2 ⟨5, ""⟩ (by
      simp [Subscription.toBytes, writeText, writeCounter, writeNumber, writeKey, writeVarint_of_lt,
        Shape.code, UInt64.size])
    have foreign : Field.Spells ⟨9, .bytes [0]⟩ (writeBytes 9 [0]) :=
      spells_writeBytes (by decide) (by decide)
    exact laws.extended _ (.foreign foreign (by decide) laws.fields)

end SliceSelection.SliceStream
