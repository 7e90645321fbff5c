import SliceSelection.Ingest.Document
import SliceSelection.Proofs.Json.Record
import SliceSelection.Registry.Problem

/-!
# Documents that are read back

What the program writes of a profile, of a configuration list, of a slice and of problem details is
read as just that value, for every text and number in it: each part is lawful if its own parts are.
So no two values share a text. In particular an absent list is not an empty one, and a slice of the
configuration list without a differentiator is not one whose differentiator is empty.
-/

namespace SliceSelection

open Json

/-! ### Networks and slices -/

lemma PlmnId.lawful : Lawful toJson ofJson? := by
  refine .record (fun _ => rfl) (by decide) ?_ ?_
  · intro p fs get
    simp [Lawful.text.required (get "mcc"), Lawful.text.required (get "mnc")]
  · intro p
    simp [Lawful.text.writable]

lemma Snssai.lawful : Lawful toJson ofJson? := by
  refine .record (fun _ => rfl) (by decide) ?_ ?_
  · intro s fs get
    -- The differentiator that is not written is the one that is put in its place.
    have sd := Lawful.text.defaulting (get "sd") fun empty => String.isEmpty_iff.mp empty
    simp [Lawful.uint8.required (get "sst"), sd]
  · intro s
    simp [Lawful.text.writable, Lawful.uint8.writable]

lemma WireSnssai.lawful : Lawful toJson ofJson? := by
  refine .record (fun _ => rfl) (by decide) ?_ ?_
  · intro s fs get
    simp [Lawful.uint8.required (get "sst"), Lawful.text.optional (get "sd")]
  · intro s
    simp [Lawful.uint8.writable, Lawful.text.writable]

lemma WireEntry.lawful : Lawful toJson ofJson? := by
  refine .record (fun _ => rfl) (by decide) ?_ ?_
  · intro e fs get
    simp [PlmnId.lawful.required (get "plmnId"),
      WireSnssai.lawful.list.given_default (get "sNssaiList")]
  · intro e
    simp [PlmnId.lawful.writable, WireSnssai.lawful.list.writable]

namespace Registry

/-! ### Choices -/

lemma NfType.lawful : Lawful toJson ofJson? :=
  .choice (by rintro ⟨⟩ <;> decide) (by rintro ⟨⟩ ⟨⟩ <;> decide)

lemma NfStatus.lawful : Lawful toJson ofJson? :=
  .choice (by rintro ⟨⟩ <;> decide) (by rintro ⟨⟩ ⟨⟩ <;> decide)

lemma UriScheme.lawful : Lawful toJson ofJson? :=
  .choice (by rintro ⟨⟩ <;> decide) (by rintro ⟨⟩ ⟨⟩ <;> decide)

lemma Transport.lawful : Lawful toJson ofJson? :=
  .choice (by rintro ⟨⟩; decide) (by rintro ⟨⟩ ⟨⟩; decide)

/-! ### Profiles -/

lemma ServiceVersion.lawful : Lawful toJson ofJson? := by
  refine .record (fun _ => rfl) (by decide) ?_ ?_
  · intro v fs get
    simp [Lawful.text.required (get "apiVersionInUri"), Lawful.text.required (get "apiFullVersion")]
  · intro v
    simp [Lawful.text.writable]

lemma Endpoint.lawful : Lawful toJson ofJson? := by
  refine .record (fun _ => rfl) (by decide) ?_ ?_
  · intro e fs get
    simp [Lawful.text.optional (get "ipv4Address"), Transport.lawful.optional (get "transport"),
      Lawful.uint16.optional (get "port")]
  · intro e
    simp [Lawful.text.writable, Transport.lawful.writable, Lawful.uint16.writable]

lemma Service.lawful : Lawful toJson ofJson? := by
  refine .record (fun _ => rfl) (by decide) ?_ ?_
  · intro s fs get
    simp [Lawful.text.required (get "serviceInstanceId"), Lawful.text.required (get "serviceName"),
      ServiceVersion.lawful.list.required (get "versions"),
      UriScheme.lawful.required (get "scheme"), NfStatus.lawful.required (get "nfServiceStatus"),
      Endpoint.lawful.list.optional (get "ipEndPoints")]
  · intro s
    simp [Lawful.text.writable, ServiceVersion.lawful.list.writable, UriScheme.lawful.writable,
      NfStatus.lawful.writable, Endpoint.lawful.list.writable]

lemma Profile.lawful : Lawful toJson ofJson? := by
  refine .record (fun _ => rfl) (by decide) ?_ ?_
  · intro p fs get
    have addresses := Lawful.text.list.defaulting (get "ipv4Addresses") fun empty =>
      List.isEmpty_iff.mp empty
    simp [Lawful.text.required (get "nfInstanceId"), NfType.lawful.required (get "nfType"),
      NfStatus.lawful.required (get "nfStatus"), Lawful.uint32.optional (get "heartBeatTimer"),
      PlmnId.lawful.list.optional (get "plmnList"), addresses,
      Service.lawful.list.optional (get "nfServices")]
  · intro p
    simp [Lawful.text.writable, NfType.lawful.writable, NfStatus.lawful.writable,
      Lawful.uint32.writable, PlmnId.lawful.list.writable, Lawful.text.list.writable,
      Service.lawful.list.writable]

lemma ProblemDetails.lawful : Lawful toJson ofJson? := by
  refine .record (fun _ => rfl) (by decide) ?_ ?_
  · intro p fs get
    simp [Lawful.text.optional (get "type"), Lawful.text.optional (get "title"),
      Lawful.int32.optional (get "status"), Lawful.text.optional (get "detail"),
      Lawful.text.optional (get "cause")]
  · intro p
    simp [Lawful.text.writable, Lawful.int32.writable]

end Registry

/-! ### Documents -/

namespace Json

variable {α : Type} {write : α → Json} {read : Json → Option α}

/-- The document of a value is read as that value. -/
def ReadsBack (write : α → Json) (read : Json → Option α) : Prop :=
  ∀ x, (parse? (write x).text).bind read = some x

lemma Lawful.readsBack (law : Lawful write read) : ReadsBack write read := by
  intro x
  rw [parse?_text (law.writable x)]
  exact law.back x

lemma ReadsBack.text_ne {x y : α} (reads : ReadsBack write read) (ne : x ≠ y) :
    (write x).text ≠ (write y).text := by
  intro same
  have both : some x = some y := by rw [← reads x, ← reads y, same]
  exact ne (Option.some.inj both)

open Registry in
/-- The documents of the program are read back, and none says two things. -/
structure DocumentsReadBack : Prop where
  profiles : ReadsBack Profile.toJson Profile.ofJson?
  lists : ∀ list, WireEntry.parseList? (WireEntry.listToJson list).text = some list
  slices : ReadsBack Snssai.toJson Snssai.ofJson?
  problems : ReadsBack ProblemDetails.toJson ProblemDetails.ofJson?
  /-- A list that is absent is not one that is empty. -/
  plmns : ∀ p : Profile,
    { p with plmns := none }.toJson.text ≠ { p with plmns := some [] }.toJson.text
  services : ∀ p : Profile,
    { p with services := none }.toJson.text ≠ { p with services := some [] }.toJson.text
  endpoints : ∀ s : Service,
    { s with endpoints := none }.toJson.text ≠ { s with endpoints := some [] }.toJson.text
  /-- A differentiator that is absent from the configuration list is not one that is empty. -/
  differentiators : ∀ sst,
    (WireSnssai.toJson ⟨sst, none⟩).text ≠ (WireSnssai.toJson ⟨sst, some ""⟩).text
  /-- An empty differentiator of a slice is not written. -/
  unwritten : ∀ sst : UInt8,
    (Snssai.toJson ⟨sst, ""⟩).text = "\x7b\"sst\":" ++ toString sst.toNat ++ "\x7d"

theorem documents_readBack : DocumentsReadBack where
  profiles := Registry.Profile.lawful.readsBack
  lists := WireEntry.lawful.list.readsBack
  slices := Snssai.lawful.readsBack
  problems := Registry.ProblemDetails.lawful.readsBack
  plmns p := Registry.Profile.lawful.readsBack.text_ne (by simp)
  services p := Registry.Profile.lawful.readsBack.text_ne (by simp)
  endpoints s := Registry.Service.lawful.readsBack.text_ne (by simp)
  differentiators sst := WireSnssai.lawful.readsBack.text_ne (by simp)
  unwritten sst := by
    have tokens : (Snssai.toJson ⟨sst, ""⟩).tokens =
      [.openObject, .string (some "sst"), .colon, .int sst.toNat, .closeObject] := rfl
    rw [text, tokens, ← String.toList_inj]
    simp [Token.text, escapeChar, Int.repr_eq_if]

end Json

end SliceSelection
