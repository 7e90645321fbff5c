import Std.Data.ExtTreeMap
import SliceSelection.Json.Document
import SliceSelection.Registry.Problem
import SliceSelection.Text.Substring

/-!
# Requests and responses

The messages of the service-based interface: headers under names without regard to case, a body
that may be absent, and what both ends write into them. A body is declared by its content type;
whether it is read as JSON is up to the reader.
-/

namespace SliceSelection.Http

/-- The content type of JSON. -/
def jsonType : String := "application/json"

/-- The content type of a patch. -/
def patchType : String := "application/json-patch+json"

/-- The headers of a message, by name in small letters. -/
abbrev Headers := Std.ExtTreeMap String String

namespace Headers

/-- Set a header in place of one with its name. -/
def set (h : Headers) (name value : String) : Headers := h.insert (Text.asciiLowercase name) value

/-- Look a header up. -/
def find? (h : Headers) (name : String) : Option String := h[Text.asciiLowercase name]?

end Headers

/-! ### Requests -/

/-- A request as the program builds it. -/
structure Request where
  method : String
  uri : String
  headers : Headers
  content : Option String

namespace Request

/-- A request without headers and body. -/
def ofMethod (method uri : String) : Request := ⟨method, uri, ∅, none⟩

/-- Add a header. -/
def withHeader (r : Request) (name value : String) : Request :=
  { r with headers := r.headers.set name value }

/-- Set the body, without declaring it. -/
def withContent (r : Request) (content : String) : Request := { r with content := some content }

/-- Set a JSON body under a content type. -/
def withJsonAs (r : Request) (j : Json) (contentType : String) : Request :=
  (r.withContent j.text).withHeader "Content-Type" contentType

/-- Set a JSON body. -/
def withJson (r : Request) (j : Json) : Request := r.withJsonAs j jsonType

end Request

/-! ### Responses -/

/-- A response as the program reads it. -/
structure Response where
  status : UInt16
  headers : Headers
  content : Option String

namespace Response

/-- A response without headers and body. -/
def ofStatus (status : UInt16) : Response := ⟨status, ∅, none⟩

/-- Add a header. -/
def withHeader (r : Response) (name value : String) : Response :=
  { r with headers := r.headers.set name value }

/-- Set the body under a content type. -/
def withBody (r : Response) (content contentType : String) : Response :=
  { r with content := some content }.withHeader "Content-Type" contentType

/-- The declared content type. -/
def contentType (r : Response) : Option String := r.headers.find? "content-type"

/-- The address of the resource that was made. -/
def location (r : Response) : Option String := r.headers.find? "location"

/-- Whether the declared content type is one of JSON. -/
def hasJsonBody (r : Response) : Bool :=
  match r.contentType with
  | some t => Text.occurs jsonType t || Text.occurs "+json" t
  | none => false

/-- Whether the status tells success. -/
def isSuccess (r : Response) : Bool := 200 ≤ r.status && r.status < 300

/-- The body as JSON; an absent body reads as an empty object. -/
def json? (r : Response) : Option Json := Json.parse? (r.content.getD "\x7b\x7d")

/-- The problem that the body explains, its status filled from the response. -/
def problem? (r : Response) : Option Registry.ProblemDetails := do
  let content ← r.content
  let problem ← Registry.ProblemDetails.ofJson? (← Json.parse? content)
  return { problem with status := some (problem.status.getD (.ofNat r.status.toNat)) }

end Response

end SliceSelection.Http
