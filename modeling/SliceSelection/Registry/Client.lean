import SliceSelection.Http.Client
import SliceSelection.Registry.Outcome
import SliceSelection.Registry.Patch
import SliceSelection.Text.Quoted

/-!
# The registry client

The three calls of the registry as exchanges: the request each one sends, and the outcome that
the result of the exchange amounts to.
-/

namespace SliceSelection.Registry

/-- The result of an exchange. -/
abbrev Exchange := Except Http.Error Http.Response

/-! ### Requests -/

/-- The request that registers a profile. -/
def registerRequest (i : Identity) (p : Profile) : Http.Request :=
  (Http.Request.ofMethod "PUT" i.uri).withJson p.toJson

/-- The request that patches a profile. -/
def updateRequest (i : Identity) (patch : List PatchItem) : Http.Request :=
  (Http.Request.ofMethod "PATCH" i.uri).withJsonAs (.ofList PatchItem.toJson patch) Http.patchType

/-- The request that ends a registration. -/
def deregisterRequest (i : Identity) : Http.Request := .ofMethod "DELETE" i.uri

/-! ### Outcomes -/

/-- The profile in the body of a response, if there is one. -/
def echoedProfile (r : Http.Response) : Option Profile := do
  let content ← r.content
  Profile.ofJson? (← Json.parse? content)

/-- The outcome of registering: a new record has to come with its address. -/
def RegisterOutcome.ofExchange : Exchange → RegisterOutcome
  | .error e => .failed (.transport e)
  | .ok r =>
    if r.status = 200 then .updated (echoedProfile r)
    else if r.status = 201 then
      match r.location with
      | none => .failed (.malformed "201 without Location header")
      | some uri =>
        match Identity.ofUri? uri with
        | none => .failed (.malformed ("unexpected Location header " ++ Text.quote uri))
        | some identity => .created (echoedProfile r) identity
    else .failed (.unexpectedStatus r.status)

/-- The outcome of an update: a refusal counts as one only if its body explains it. -/
def UpdateOutcome.ofExchange : Exchange → UpdateOutcome
  | .error e => .failed (.transport e)
  | .ok r =>
    if r.status = 200 then .success (echoedProfile r)
    else if r.status = 204 then .success none
    else match r.problem? with
      | some problem => .rejected problem
      | none => .failed (.unexpectedStatus r.status)

/-- The outcome of deregistering. -/
def DeregisterOutcome.ofExchange : Exchange → DeregisterOutcome
  | .error e => .failed (.transport e)
  | .ok r => if r.status = 204 then .success else .failed (.unexpectedStatus r.status)

end SliceSelection.Registry
