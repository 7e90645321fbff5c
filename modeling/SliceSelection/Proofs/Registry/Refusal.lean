import SliceSelection.Proofs.Lifecycle.Rule
import SliceSelection.Proofs.Polling.Attempts
import SliceSelection.Registry.Client

/-!
# What refusals tell

The exchange of a heartbeat ends with an error of the client or with an answer in bytes. The
registration is lost unless the answer accepts the heartbeat, or explains a refusal with a status
that leaves the registration alone.
-/

namespace SliceSelection

open Polling (Ending received)

/-- The problem details that a text gives. -/
def Registry.ProblemDetails.ofText? (s : String) : Option ProblemDetails :=
  (Json.parse? s).bind ofJson?

namespace Http.Answer

variable {a : Answer} {s : String} {d : Registry.ProblemDetails}

/-- The body is a text that reads as problem details. -/
def Explains (a : Answer) (d : Registry.ProblemDetails) : Prop :=
  a.body ≠ [] ∧ ∃ s, Text.Utf8.encode s = a.body ∧ Registry.ProblemDetails.ofText? s = some d

/-- The answer does not accept what was asked. -/
def Refuses (a : Answer) : Prop := a.status ≠ 200 ∧ a.status ≠ 204

/-- The status of the details counts, or that of the answer where they give none. -/
def statusBehind (a : Answer) (d : Registry.ProblemDetails) : Int :=
  (d.status.map Int32.toInt).getD a.status.toNat

lemma readBody_eq_some_iff :
    a.readBody = .ok (some s) ↔ a.body ≠ [] ∧ Text.Utf8.encode s = a.body := by
  unfold readBody
  split_ifs with empty
  · simp [List.isEmpty_iff.mp empty]
  · have nonempty : a.body ≠ [] := mt List.isEmpty_iff.mpr empty
    rw [← Text.Utf8.decode_eq_ok_iff]
    cases Text.Utf8.decode a.body <;> simp [nonempty]

lemma readBody_eq_error_iff :
    (∃ e, a.readBody = .error e) ↔ ∀ s, Text.Utf8.encode s ≠ a.body := by
  constructor
  · rintro ⟨e, failed⟩ s encoded
    obtain ⟨content, read, -⟩ := readBody_iff.mpr encoded
    rw [failed] at read
    cases read
  · intro garbled
    cases read : a.readBody with
    | error e => exact ⟨e, rfl⟩
    | ok content => exact absurd (readBody_iff.mp ⟨content, read, rfl⟩) (garbled _)

lemma explains_iff {content : Option String} (read : a.readBody = .ok content) :
    a.Explains d ↔ content.bind Registry.ProblemDetails.ofText? = some d := by
  constructor
  · rintro ⟨nonempty, s, encoded, parsed⟩
    have same := readBody_eq_some_iff.mpr ⟨nonempty, encoded⟩
    rw [read] at same
    cases same
    exact parsed
  · intro parsed
    obtain ⟨s, rfl, parsed⟩ := Option.bind_eq_some_iff.mp parsed
    obtain ⟨nonempty, encoded⟩ := readBody_eq_some_iff.mp read
    exact ⟨nonempty, s, encoded, parsed⟩

end Http.Answer

namespace Registry

/-- A status with which a refusal means that the registration is lost. -/
def IsLoss (status : Int) : Prop := status = 400 ∨ status = 404 ∨ 500 ≤ status ∧ status ≤ 599

/-- Whether the end of the exchange of a heartbeat means that the registration is lost. -/
inductive LosesRegistration : Ending → Prop where
  | error (e : Http.Error) : LosesRegistration (.error e)
  /-- The body is no text, whatever the status is. -/
  | garbled {a : Http.Answer} (garbled : ∀ s, Text.Utf8.encode s ≠ a.body) :
      LosesRegistration (.ok a)
  /-- The body is absent, or does not read as problem details. -/
  | unexplained {a : Http.Answer} (refuses : a.Refuses) (unexplained : ∀ d, ¬a.Explains d) :
      LosesRegistration (.ok a)
  | explained {a : Http.Answer} {d : ProblemDetails} (refuses : a.Refuses)
      (explains : a.Explains d) (status : IsLoss (a.statusBehind d)) : LosesRegistration (.ok a)

lemma ProblemDetails.losesRegistration_iff {status : Int32} :
    losesRegistration (some status) = true ↔ IsLoss status.toInt := by
  simp [losesRegistration, IsLoss, Int32.le_iff_toInt_le, ← Int32.toInt_inj, or_assoc]

/-- Of an answer that can be read only a refusal counts, unless its details give another status. -/
lemma losesRegistration_ok_iff {a : Http.Answer} {content : Option String}
    (read : a.readBody = .ok content) :
    LosesRegistration (.ok a) ↔
      a.Refuses ∧ ∀ d, a.Explains d → IsLoss (a.statusBehind d) := by
  constructor
  · intro loses
    cases loses with
    | garbled garbled =>
      obtain ⟨e, failed⟩ := Http.Answer.readBody_eq_error_iff.mpr garbled
      rw [read] at failed
      cases failed
    | unexplained refuses unexplained =>
      exact ⟨refuses, fun d explains => absurd explains (unexplained d)⟩
    | explained refuses explains status =>
      refine ⟨refuses, fun d explains' => ?_⟩
      rw [Http.Answer.explains_iff read] at explains explains'
      rwa [Option.some.inj (explains'.symm.trans explains)]
  · rintro ⟨refuses, loss⟩
    by_cases explained : ∃ d, a.Explains d
    · obtain ⟨d, explains⟩ := explained
      exact .explained refuses explains (loss d explains)
    · exact .unexplained refuses (not_exists.mp explained)

/-- The problem of a response has the status that counts. -/
lemma problem?_eq {r : Http.Response} :
    r.problem? = (r.content.bind ProblemDetails.ofText?).map fun d =>
      { d with status := some (d.status.getD (.ofNat r.status.toNat)) } := by
  unfold Http.Response.problem?
  cases r.content with
  | none => rfl
  | some s =>
    simp only [Option.bind_eq_bind, Option.bind_some, ProblemDetails.ofText?]
    cases Json.parse? s with
    | none => rfl
    | some v =>
      simp only [Option.bind_some]
      cases ProblemDetails.ofJson? v <;> rfl

lemma toInt_status {r : Http.Response} {d : ProblemDetails} :
    (d.status.getD (.ofNat r.status.toNat)).toInt =
      (d.status.map Int32.toInt).getD r.status.toNat := by
  have small : r.status.toNat < 2 ^ 31 := r.status.toNat_lt.trans (by decide)
  cases d.status with
  | none => exact Int32.toInt_ofNat_of_lt small
  | some status => rfl

lemma UpdateOutcome.losesRegistration_ofExchange {r : Http.Response} :
    (ofExchange (.ok r)).losesRegistration = true ↔
      (r.status ≠ 200 ∧ r.status ≠ 204) ∧
        ∀ d, r.content.bind ProblemDetails.ofText? = some d →
          IsLoss ((d.status.map Int32.toInt).getD r.status.toNat) := by
  simp only [ofExchange, problem?_eq]
  split_ifs with accepted noContent
  · simp [losesRegistration, accepted]
  · simp [losesRegistration, noContent]
  · cases r.content.bind ProblemDetails.ofText? with
    | none => simp [losesRegistration, accepted, noContent]
    | some d =>
      simp [losesRegistration, accepted, noContent, ProblemDetails.losesRegistration_iff,
        toInt_status]

lemma losesRegistration_iff {ending : Ending} :
    (UpdateOutcome.ofExchange (received ending)).losesRegistration = true ↔
      LosesRegistration ending := by
  cases ending with
  | error e => exact iff_of_true rfl (.error e)
  | ok a =>
    simp only [received, Except.bind, Http.Reply.toResponse]
    cases read : a.readBody with
    | error e => exact iff_of_true rfl (.garbled (Http.Answer.readBody_eq_error_iff.mp ⟨e, read⟩))
    | ok content =>
      rw [losesRegistration_ok_iff read]
      simp only [Except.map, UpdateOutcome.losesRegistration_ofExchange, Http.Answer.Refuses,
        Http.Answer.explains_iff read, Http.Answer.statusBehind]

end Registry

end SliceSelection
