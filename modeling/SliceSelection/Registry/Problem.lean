import SliceSelection.Json.Record

/-!
# Problem details

The body in which a peer explains why it refused a request. Every part may be absent.
-/

namespace SliceSelection.Registry

/-- Why a request was refused. -/
structure ProblemDetails where
  /-- What names the kind of the problem. -/
  type : Option String
  title : Option String
  /-- The status of the answer. -/
  status : Option Int32
  detail : Option String
  /-- The cause in the words of the application. -/
  cause : Option String
deriving DecidableEq, Repr

namespace ProblemDetails

/-- Details that give a status only. -/
def ofStatus (status : Int32) : ProblemDetails := ⟨none, none, some status, none, none⟩

/-- The JSON form of problem details. -/
def toJson (p : ProblemDetails) : Json :=
  .record [("type", p.type.map .ofString), ("title", p.title.map .ofString),
    ("status", p.status.map fun s => .int s.toInt), ("detail", p.detail.map .ofString),
    ("cause", p.cause.map .ofString)]

/-- Read problem details. -/
def ofJson? (j : Json) : Option ProblemDetails := do
  let fs ← j.fields? [⟨"type", false⟩, ⟨"title", false⟩, ⟨"status", false⟩, ⟨"detail", false⟩,
    ⟨"cause", false⟩]
  return ⟨← fs.optional "type" Json.text?, ← fs.optional "title" Json.text?,
    ← fs.optional "status" Json.int32?, ← fs.optional "detail" Json.text?,
    ← fs.optional "cause" Json.text?⟩

/-- Whether a heartbeat that was refused with a status means that the registration is lost. -/
def losesRegistration (status : Option Int32) : Bool :=
  match status with
  | some s => s == 400 || s == 404 || (500 ≤ s && s ≤ 599)
  | none => false

end ProblemDetails

end SliceSelection.Registry
