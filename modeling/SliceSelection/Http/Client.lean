import SliceSelection.Http.Error
import SliceSelection.Http.Message
import SliceSelection.Polling.Span
import SliceSelection.Text.Uppercase
import SliceSelection.Text.Utf8

/-!
# The client

A request is checked before anything is sent: first the address, then the method, then the
headers. What the peer does with it is a reply, and the client turns a reply into a response: a
header that is not printable is dropped, and a body is text or the exchange has failed.
-/

namespace SliceSelection.Http

/-! ### Settings -/

/-- The settings of a client. -/
structure ClientConfig where
  /-- Whether the second version of the protocol is spoken from the start. -/
  http2Only : Bool
  connectTimeout : Span
  /-- The time for the whole exchange, the body included. -/
  requestTimeout : Span
deriving DecidableEq, Repr

namespace ClientConfig

/-- The settings for peers of the service-based interface. -/
def default : ClientConfig := ⟨true, .ofSeconds 5, .ofSeconds 30⟩

/-- Speak the first version of the protocol. -/
def withHttp1 (c : ClientConfig) : ClientConfig := { c with http2Only := false }

/-- Set the time for a connection. -/
def withConnectTimeout (c : ClientConfig) (t : Span) : ClientConfig :=
  { c with connectTimeout := t }

/-- Set the time for an exchange. -/
def withRequestTimeout (c : ClientConfig) (t : Span) : ClientConfig :=
  { c with requestTimeout := t }

end ClientConfig

/-! ### Sending -/

/-- The methods that are sent. -/
inductive Method where
  | get | put | delete | patch
deriving DecidableEq, Repr

namespace Method

/-- All methods. -/
def all : List Method := [get, put, delete, patch]

/-- The name of a method. -/
def name : Method → String
  | get => "GET"
  | put => "PUT"
  | delete => "DELETE"
  | patch => "PATCH"

/-- The method with a name in any case. -/
def ofText (s : String) : Except Error Method :=
  match all.find? (·.name == Text.uppercase s) with
  | some m => .ok m
  | none => .error (.invalidMethod (Text.uppercase s))

end Method

/-- A request that can be sent. -/
structure Outgoing where
  method : Method
  uri : Uri
  headers : Headers
  body : String

/-- Whether a character may stand in the name of a header. -/
def isNameChar (c : Char) : Bool := c.isAlphanum || "!#$%&'*+-.^_`|~".toList.contains c

/-- Whether a text is the name of a header. -/
def isHeaderName (s : String) : Bool :=
  !s.isEmpty && s.utf8ByteSize ≤ 65535 && s.toList.all isNameChar

/-- Whether a text can be the value of a header: it has no control but the tabulator. -/
def isHeaderValue (s : String) : Bool :=
  s.toList.all fun c => (0x20 ≤ c.toNat && c.toNat != 0x7F) || c == '\t'

namespace Request

/-- The address that a request asks. -/
def address (r : Request) : Except Error Uri :=
  match Uri.parse r.uri with
  | .error fault => .error (.invalidUri r.uri (some fault))
  | .ok u => if u.isAbsolute then .ok u else .error (.invalidUri r.uri none)

/-- Check a request before it is sent. -/
def check (r : Request) : Except Error Outgoing := do
  let uri ← r.address
  let method ← Method.ofText r.method
  if !r.headers.toList.all (isHeaderName ·.1) then throw (.unwritable "invalid HTTP header name")
  if !r.headers.toList.all (isHeaderValue ·.2) then
    throw (.unwritable "failed to parse header value")
  return ⟨method, uri, r.headers, r.content.getD ""⟩

end Request

/-! ### Receiving -/

/-- A response in bytes. -/
structure Answer where
  status : UInt16
  /-- The headers in the order of the response. -/
  headers : List (String × List UInt8)
  body : List UInt8
deriving DecidableEq, Repr

/-- What a peer does with a request. -/
inductive Reply where
  /-- There is no connection, or it ends before an answer. -/
  | broken (reason : String)
  /-- No answer comes in time. -/
  | silent
  /-- The body ends before it is complete. -/
  | truncated (reason : String)
  | answer (a : Answer)
deriving DecidableEq, Repr

/-- Whether a byte is printable. -/
def isPrintable (b : UInt8) : Bool := (0x20 ≤ b && b < 0x7F) || b == 9

namespace Answer

/-- The headers that are printable; of several with one name the last stays. -/
def readHeaders (a : Answer) : Headers :=
  a.headers.foldl (fun h (name, value) =>
    if value.all isPrintable then
      h.set name (String.ofList (value.map fun b => Char.ofNat b.toNat))
    else h) ∅

/-- The body as text; an empty body is none. -/
def readBody (a : Answer) : Except Error (Option String) :=
  if a.body.isEmpty then .ok none
  else match Text.Utf8.decode a.body with
    | .ok s => .ok (some s)
    | .error fault => .error (.invalidResponse ("body is not UTF-8: " ++ fault.message))

end Answer

/-- The response that a reply amounts to. -/
def Reply.toResponse : Reply → Except Error Response
  | broken reason => .error (.connection reason)
  | silent => .error .timeout
  | truncated reason => .error (.invalidResponse reason)
  | answer a => (a.readBody).map fun content => ⟨a.status, a.readHeaders, content⟩

/-- The reply that is waited for: there is none in time if it takes longer than an exchange may. -/
def ClientConfig.await (c : ClientConfig) (taken : Span) (reply : Reply) : Reply :=
  if taken.toNanos ≤ c.requestTimeout.toNanos then reply else .silent

/-- Send a request to a peer. -/
def send (peer : Outgoing → Reply) (r : Request) : Except Error Response := do
  (peer (← r.check)).toResponse

end SliceSelection.Http
