import SliceSelection.Plmn
import SliceSelection.Snssai
import SliceSelection.Json.Record

/-!
# Profiles of network functions

A network function announces itself to the registry by its profile: identity, kind, status, the
networks it serves, its addresses and its services. `toJson` and `ofJson?` give the JSON form of
each part; a field that is absent is left out, and an absent list is not an empty one.
-/

namespace SliceSelection

/-! ### Networks and slices -/

namespace PlmnId

/-- The JSON form of a network identity. -/
def toJson (p : PlmnId) : Json :=
  .record [("mcc", some (.ofString p.mcc)), ("mnc", some (.ofString p.mnc))]

/-- Read a network identity. -/
def ofJson? (j : Json) : Option PlmnId := do
  let fs ← j.fields? [⟨"mcc", false⟩, ⟨"mnc", false⟩]
  return ⟨← fs.required "mcc" Json.text?, ← fs.required "mnc" Json.text?⟩

end PlmnId

namespace Snssai

/-- The JSON form of a slice: an empty differentiator is left out. -/
def toJson (s : Snssai) : Json :=
  .record [("sst", some (.ofNat s.sst.toNat)),
    ("sd", if s.sd.isEmpty then none else some (.ofString s.sd))]

/-- Read a slice: a differentiator that is left out is empty. -/
def ofJson? (j : Json) : Option Snssai := do
  let fs ← j.fields? [⟨"sst", false⟩, ⟨"sd", true⟩]
  return ⟨← fs.required "sst" Json.uint8?, ← fs.defaulting "sd" "" Json.text?⟩

end Snssai

namespace Registry

/-! ### Choices -/

/-- The kind of a network function. -/
inductive NfType where
  | nrf | udm | amf | smf | ausf | nef | pcf | nssf | udr | upf | scp
deriving DecidableEq, Repr

namespace NfType

/-- All kinds. -/
def all : List NfType := [nrf, udm, amf, smf, ausf, nef, pcf, nssf, udr, upf, scp]

/-- The name of a kind. -/
def name : NfType → String
  | nrf => "NRF"
  | udm => "UDM"
  | amf => "AMF"
  | smf => "SMF"
  | ausf => "AUSF"
  | nef => "NEF"
  | pcf => "PCF"
  | nssf => "NSSF"
  | udr => "UDR"
  | upf => "UPF"
  | scp => "SCP"

/-- The JSON form of a kind. -/
def toJson (t : NfType) : Json := .ofString t.name

/-- Read a kind. -/
def ofJson? (j : Json) : Option NfType := j.choice?.bind fun n => all.find? (·.name == n)

end NfType

/-- The status of a network function or of a service. -/
inductive NfStatus where
  | registered | suspended | undiscoverable
deriving DecidableEq, Repr

namespace NfStatus

/-- All statuses. -/
def all : List NfStatus := [registered, suspended, undiscoverable]

/-- The name of a status. -/
def name : NfStatus → String
  | registered => "REGISTERED"
  | suspended => "SUSPENDED"
  | undiscoverable => "UNDISCOVERABLE"

/-- The JSON form of a status. -/
def toJson (s : NfStatus) : Json := .ofString s.name

/-- Read a status. -/
def ofJson? (j : Json) : Option NfStatus := j.choice?.bind fun n => all.find? (·.name == n)

end NfStatus

/-- The scheme under which a service is reached. -/
inductive UriScheme where
  | http | https
deriving DecidableEq, Repr, Inhabited

namespace UriScheme

/-- All schemes. -/
def all : List UriScheme := [http, https]

/-- The name of a scheme. -/
def name : UriScheme → String
  | http => "http"
  | https => "https"

/-- The scheme with a name. -/
def ofName? (n : String) : Option UriScheme := all.find? (·.name == n)

/-- The JSON form of a scheme. -/
def toJson (s : UriScheme) : Json := .ofString s.name

/-- Read a scheme. -/
def ofJson? (j : Json) : Option UriScheme := j.choice?.bind ofName?

end UriScheme

/-- The transport protocol of an endpoint. -/
inductive Transport where
  | tcp
deriving DecidableEq, Repr

namespace Transport

/-- The name of a protocol. -/
def name : Transport → String
  | tcp => "TCP"

/-- The JSON form of a protocol. -/
def toJson (t : Transport) : Json := .ofString t.name

/-- Read a protocol. -/
def ofJson? (j : Json) : Option Transport :=
  j.choice?.bind fun n => [tcp].find? (·.name == n)

end Transport

/-! ### Services -/

/-- A version of the interface of a service. -/
structure ServiceVersion where
  /-- The version as it stands in resource addresses. -/
  inUri : String
  /-- The version in full. -/
  full : String
deriving DecidableEq, Repr

namespace ServiceVersion

/-- The JSON form of a version. -/
def toJson (v : ServiceVersion) : Json :=
  .record [("apiVersionInUri", some (.ofString v.inUri)),
    ("apiFullVersion", some (.ofString v.full))]

/-- Read a version. -/
def ofJson? (j : Json) : Option ServiceVersion := do
  let fs ← j.fields? [⟨"apiVersionInUri", false⟩, ⟨"apiFullVersion", false⟩]
  return ⟨← fs.required "apiVersionInUri" Json.text?, ← fs.required "apiFullVersion" Json.text?⟩

end ServiceVersion

/-- An address at which a service is reached. -/
structure Endpoint where
  ipv4 : Option String
  transport : Option Transport
  port : Option UInt16
deriving DecidableEq, Repr

namespace Endpoint

/-- The JSON form of an endpoint. -/
def toJson (e : Endpoint) : Json :=
  .record [("ipv4Address", e.ipv4.map .ofString), ("transport", e.transport.map (·.toJson)),
    ("port", e.port.map fun p => .ofNat p.toNat)]

/-- Read an endpoint. -/
def ofJson? (j : Json) : Option Endpoint := do
  let fs ← j.fields? [⟨"ipv4Address", false⟩, ⟨"transport", false⟩, ⟨"port", false⟩]
  return ⟨← fs.optional "ipv4Address" Json.text?, ← fs.optional "transport" Transport.ofJson?,
    ← fs.optional "port" Json.uint16?⟩

end Endpoint

/-- A service of a network function. -/
structure Service where
  instanceId : String
  name : String
  versions : List ServiceVersion
  scheme : UriScheme
  status : NfStatus
  endpoints : Option (List Endpoint)
deriving DecidableEq, Repr

namespace Service

/-- The JSON form of a service. -/
def toJson (s : Service) : Json :=
  .record [("serviceInstanceId", some (.ofString s.instanceId)),
    ("serviceName", some (.ofString s.name)),
    ("versions", some (.ofList ServiceVersion.toJson s.versions)),
    ("scheme", some s.scheme.toJson),
    ("nfServiceStatus", some s.status.toJson),
    ("ipEndPoints", s.endpoints.map (.ofList Endpoint.toJson))]

/-- Read a service. -/
def ofJson? (j : Json) : Option Service := do
  let fs ← j.fields? [⟨"serviceInstanceId", false⟩, ⟨"serviceName", false⟩, ⟨"versions", false⟩,
    ⟨"scheme", false⟩, ⟨"nfServiceStatus", false⟩, ⟨"ipEndPoints", false⟩]
  return {
    instanceId := ← fs.required "serviceInstanceId" Json.text?
    name := ← fs.required "serviceName" Json.text?
    versions := ← fs.required "versions" (Json.list? ServiceVersion.ofJson?)
    scheme := ← fs.required "scheme" UriScheme.ofJson?
    status := ← fs.required "nfServiceStatus" NfStatus.ofJson?
    endpoints := ← fs.optional "ipEndPoints" (Json.list? Endpoint.ofJson?) }

end Service

/-! ### Profiles -/

/-- The profile of a network function. -/
structure Profile where
  instanceId : String
  type : NfType
  status : NfStatus
  /-- The seconds between two signs of life. -/
  heartbeat : Option UInt32
  plmns : Option (List PlmnId)
  ipv4Addresses : List String
  services : Option (List Service)
deriving DecidableEq, Repr

namespace Profile

/-- The profile that gives identity and kind only. -/
def bare (instanceId : String) (type : NfType) : Profile :=
  ⟨instanceId, type, .registered, none, none, [], none⟩

/-- The heartbeat interval in seconds, of which zero says nothing. -/
def heartbeatInterval (p : Profile) : Option UInt32 := p.heartbeat.filter (0 < ·)

/-- The JSON form of a profile. -/
def toJson (p : Profile) : Json :=
  .record [("nfInstanceId", some (.ofString p.instanceId)),
    ("nfType", some p.type.toJson),
    ("nfStatus", some p.status.toJson),
    ("heartBeatTimer", p.heartbeat.map fun s => .ofNat s.toNat),
    ("plmnList", p.plmns.map (.ofList PlmnId.toJson)),
    ("ipv4Addresses",
      if p.ipv4Addresses.isEmpty then none else some (.ofList .ofString p.ipv4Addresses)),
    ("nfServices", p.services.map (.ofList Service.toJson))]

/-- Read a profile. -/
def ofJson? (j : Json) : Option Profile := do
  let fs ← j.fields? [⟨"nfInstanceId", false⟩, ⟨"nfType", false⟩, ⟨"nfStatus", false⟩,
    ⟨"heartBeatTimer", false⟩, ⟨"plmnList", false⟩, ⟨"ipv4Addresses", true⟩,
    ⟨"nfServices", false⟩]
  return {
    instanceId := ← fs.required "nfInstanceId" Json.text?
    type := ← fs.required "nfType" NfType.ofJson?
    status := ← fs.required "nfStatus" NfStatus.ofJson?
    heartbeat := ← fs.optional "heartBeatTimer" Json.uint32?
    plmns := ← fs.optional "plmnList" (Json.list? PlmnId.ofJson?)
    ipv4Addresses := ← fs.defaulting "ipv4Addresses" [] (Json.list? Json.text?)
    services := ← fs.optional "nfServices" (Json.list? Service.ofJson?) }

end Profile

end Registry

end SliceSelection
