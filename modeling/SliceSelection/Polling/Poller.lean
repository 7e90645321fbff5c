import SliceSelection.Http.Client
import SliceSelection.Ingest.Applier
import SliceSelection.Ingest.Document
import SliceSelection.Polling.Backoff
import SliceSelection.Text.Quoted

/-!
# The poller

The poller asks the configuration service for the whole list, over and over. A poll either yields
a list, which is applied, or fails, which changes nothing but the interval to the next poll.
-/

namespace SliceSelection.Polling

/-- Why a poll failed. -/
inductive FetchError where
  | transport (e : Http.Error)
  | unexpectedContentType (contentType : Option String)
  | unexpectedStatus (status : UInt16)
  /-- The body is not the JSON text of a list. -/
  | malformedBody
deriving DecidableEq, Repr

/-- What a failed poll says. -/
def FetchError.message : FetchError → String
  | transport e => "transport failure: " ++ e.message
  | unexpectedContentType t => "unexpected Content-Type: " ++ Text.quoteOption t
  | unexpectedStatus status => "unexpected status code: " ++ toString status.toNat
  | malformedBody => "malformed body"

/-- The list that the result of an exchange yields: the content type is looked at first, then the
status, then the body. -/
def fetched : Except Http.Error Http.Response → Except FetchError (List WireEntry)
  | .error e => .error (.transport e)
  | .ok r =>
    if !(r.contentType.any (Text.occurs Http.jsonType ·)) then
      .error (.unexpectedContentType r.contentType)
    else if r.status ≠ 200 then .error (.unexpectedStatus r.status)
    else match WireEntry.parseList? (r.content.getD "") with
      | some list => .ok list
      | none => .error .malformedBody

/-- A poller. -/
structure Poller where
  /-- The address that is asked. -/
  endpoint : String
  backoff : Backoff
  applier : Applier
deriving DecidableEq, Repr

namespace Poller

/-- The path of the list at the configuration service. -/
def resource : String := "/nfconfig/plmn-snssai"

/-- A poller of the configuration service at a base address. -/
def ofBase (base : String) (backoff : Backoff) (applier : Applier) : Poller :=
  ⟨Text.trimEnd '/' base ++ resource, backoff, applier⟩

/-- The settings of the client: an exchange may take the initial interval. -/
def clientConfig (p : Poller) : Http.ClientConfig :=
  (Http.ClientConfig.default.withHttp1.withConnectTimeout p.backoff.initial).withRequestTimeout
    p.backoff.initial

/-- The request for the list. -/
def request (p : Poller) : Http.Request :=
  (Http.Request.ofMethod "GET" p.endpoint).withHeader "Accept" Http.jsonType

/-- The exchange of a poll with a peer, each of whose replies takes some time. -/
def exchange (p : Poller) (peer : Http.Outgoing → Span × Http.Reply) :
    Except Http.Error Http.Response :=
  Http.send (fun o => p.clientConfig.await (peer o).1 (peer o).2) p.request

/-- Take the result of one poll. -/
def poll (p : Poller) (exchange : Except Http.Error Http.Response) (b : Board) :
    Except FetchError ApplyOutcome × Poller × Board :=
  match fetched exchange with
  | .error e => (.error e, { p with backoff := p.backoff.onFailure }, b)
  | .ok list =>
    let (outcome, applier, b) := p.applier.apply list b
    (.ok outcome, { p with backoff := p.backoff.onSuccess, applier := applier }, b)

end Poller

end SliceSelection.Polling
