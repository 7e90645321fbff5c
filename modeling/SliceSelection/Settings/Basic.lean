import SliceSelection.Ingest.WireList
import SliceSelection.Polling.Backoff
import SliceSelection.Registry.Instance
import SliceSelection.Text.Substring

/-!
# Settings

What an operator sets: where the registry and the configuration service are, what this instance
advertises, how often it polls, and the slices it starts with. `Settings.check` says whether the
settings make sense, and the rest gives what the program makes of them.
-/

namespace SliceSelection

/-- The files of a certificate and its key. -/
structure TlsFiles where
  pem : String
  key : String
deriving DecidableEq, Repr

/-- The interface of this instance. -/
structure InterfaceSettings where
  scheme : Registry.UriScheme
  /-- The address that is advertised, or the empty text. -/
  registerIpv4 : String
  /-- The address that is listened on, or the empty text. -/
  bindingIpv4 : String
  /-- The port, or zero. -/
  port : UInt16
  tls : Option TlsFiles
deriving DecidableEq, Repr

/-- The bounds of the polling interval in seconds. -/
structure PollingSettings where
  initial : UInt64
  max : UInt64
deriving DecidableEq, Repr

/-- The settings. -/
structure Settings where
  version : String
  description : Option String
  name : Option String
  interface : InterfaceSettings
  /-- The names of the services. -/
  services : List String
  /-- The base address of the registry. -/
  nrfUri : String
  /-- The base address of the configuration service that is polled. -/
  webuiUri : Option String
  /-- Whether configuration is streamed rather than polled. -/
  streams : Bool
  /-- The address of the configuration service that streams. -/
  streamUri : Option String
  /-- The seconds between two heartbeats that are offered to the registry. -/
  heartbeat : Option UInt32
  polling : PollingSettings
  plmns : List PlmnId
  /-- The slices of networks; those of one network may be spread over several entries. -/
  slices : List (PlmnId × List Snssai)
  logLevel : Option String
deriving DecidableEq, Repr

namespace Settings

/-- The interface where nothing is set. -/
def defaultInterface : InterfaceSettings := ⟨.http, "", "", 0, none⟩

/-- The polling intervals where none are set. -/
def defaultPolling : PollingSettings := ⟨5, 40⟩

/-- The version of the settings that is understood. -/
def expectedVersion : String := "1.0.0"

/-- The address of the streaming service where none is set. -/
def defaultStreamUri : String := "http://webui:9876"

/-! ### Checking -/

/-- What is wrong with settings. -/
inductive Objection where
  | nrfUriMissing
  | webuiUriMissing
  | badIntervals (initial max : UInt64)
  | unsupportedPlmn (p : PlmnId)
deriving DecidableEq, Repr

/-- What an objection says. -/
def Objection.message : Objection → String
  | nrfUriMissing => "nrfUri is required"
  | webuiUriMissing => "webuiUri is required when streaming config is disabled"
  | badIntervals initial max =>
    "polling intervals must satisfy 0 < initialInterval(" ++ toString initial.toNat ++
      ") <= maxInterval(" ++ toString max.toNat ++ ")"
  | unsupportedPlmn p =>
    "PLMN " ++ p.text ++ " in supportedNssaiInPlmnList is not in supportedPlmnList"

/-- Why settings can not be used. -/
inductive Error where
  | unreadable (reason : String)
  | unparsable (reason : String)
  | versionMismatch (found : String)
  | invalid (reason : String)
deriving DecidableEq, Repr

/-- What an error says. -/
def Error.message : Error → String
  | unreadable reason => "failed to read configuration: " ++ reason
  | unparsable reason => "failed to parse configuration: " ++ reason
  | versionMismatch found =>
    "config version is [" ++ found ++ "], but expected is [" ++ expectedVersion ++ "]"
  | invalid reason => "invalid configuration: " ++ reason

/-- The first objection to settings: to the address of the registry, to that of the configuration
service where it is polled, to the intervals, and to a network that has slices but is not
supported. -/
def objection (s : Settings) : Option Objection :=
  if s.nrfUri.isEmpty then some .nrfUriMissing
  else if !s.streams && (s.webuiUri.getD "").isEmpty then some .webuiUriMissing
  else if s.polling.initial = 0 || s.polling.max < s.polling.initial then
    some (.badIntervals s.polling.initial s.polling.max)
  else (s.slices.find? fun e => !(s.plmns.contains e.1)).map fun e => .unsupportedPlmn e.1

/-- Check settings; the version counts before all else. -/
def check (s : Settings) : Except Error Settings :=
  if s.version ≠ expectedVersion then .error (.versionMismatch s.version)
  else match s.objection with
    | some o => .error (.invalid o.message)
    | none => .ok s

/-! ### Use -/

/-- The slice configuration to start with. -/
def initial (s : Settings) : SliceConfig := ⟨SliceConfig.firstMentions s.plmns, .ofEntries s.slices⟩

/-- The bounds of the polling interval. -/
def backoff (s : Settings) : Polling.Backoff :=
  .ofBounds (.ofSeconds s.polling.initial) (.ofSeconds s.polling.max)

/-- The address of the streaming service: an empty one counts as none. -/
def streamAddress (s : Settings) : String :=
  (s.streamUri.filter (!·.isEmpty)).getD defaultStreamUri

/-- An address, or the default one. -/
def ipv4OrDefault (a : String) : String := if a.isEmpty then Registry.defaultIpv4 else a

/-- The instance that settings describe, under an identifier. -/
def instanceOf (s : Settings) (id : String) : Registry.Instance where
  identity := ⟨Text.trimEnd '/' s.nrfUri, id⟩
  name := s.name
  scheme := s.interface.scheme
  registerIpv4 := ipv4OrDefault s.interface.registerIpv4
  bindingIpv4 := ipv4OrDefault s.interface.bindingIpv4
  port := if s.interface.port = 0 then Registry.defaultPort else s.interface.port
  pem := s.interface.tls.map (·.pem)
  key := s.interface.tls.map (·.key)
  services := Registry.advertise s.services s.interface.scheme
    (ipv4OrDefault s.interface.registerIpv4)
    (if s.interface.port = 0 then Registry.defaultPort else s.interface.port)
  heartbeat := s.heartbeat.filter (0 < ·)
  state := .unregistered

end Settings

end SliceSelection
