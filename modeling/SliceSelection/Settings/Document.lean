import SliceSelection.Settings.Basic
import SliceSelection.Yaml.Value

/-!
# The settings document

How settings are written down. A record lists its fields by name, and what is not given has its
default.
-/

namespace SliceSelection.Settings

open Yaml

/-- Read a network. -/
def readPlmn (d : Document) (n : Node) : Reading PlmnId := do
  let fs ← d.fields ["mcc", "mnc"] n
  return ⟨← fs.required "mcc" d.text, ← fs.required "mnc" d.text⟩

/-- Read a slice. -/
def readSnssai (d : Document) (n : Node) : Reading Snssai := do
  let fs ← d.fields ["sst", "sd"] n
  return ⟨.ofNat (← fs.required "sst" (d.unsigned 255)), ← fs.defaulting "sd" "" d.text⟩

/-- Read the slices of a network. -/
def readSlices (d : Document) (n : Node) : Reading (PlmnId × List Snssai) := do
  let fs ← d.fields ["plmnId", "supportedSnssaiList"] n
  return (← fs.required "plmnId" (readPlmn d),
    ← fs.defaulting "supportedSnssaiList" [] (d.list (readSnssai d)))

/-- Read the files of a certificate. -/
def readTls (d : Document) (n : Node) : Reading TlsFiles := do
  let fs ← d.fields ["pem", "key"] n
  return ⟨← fs.required "pem" d.text, ← fs.required "key" d.text⟩

/-- Read the scheme of the interface. -/
def readScheme (d : Document) (n : Node) : Reading Registry.UriScheme := do
  Registry.UriScheme.ofName? (← d.choice n)

/-- Read the interface. -/
def readInterface (d : Document) (n : Node) : Reading InterfaceSettings := do
  let fs ← d.fields ["scheme", "registerIPv4", "bindingIPv4", "port", "tls"] n
  return {
    scheme := ← fs.defaulting "scheme" .http (readScheme d)
    registerIpv4 := ← fs.defaulting "registerIPv4" "" d.text
    bindingIpv4 := ← fs.defaulting "bindingIPv4" "" d.text
    port := .ofNat (← fs.defaulting "port" 0 (d.unsigned 65535))
    tls := ← fs.defaulting "tls" none (d.optional (readTls d)) }

/-- Read a number of seconds. -/
def readSeconds (d : Document) (n : Node) : Reading UInt64 := do
  return .ofNat (← d.unsigned 18446744073709551615 n)

/-- Read the polling intervals. -/
def readPolling (d : Document) (n : Node) : Reading PollingSettings := do
  let fs ← d.fields ["initialInterval", "maxInterval"] n
  return ⟨← fs.defaulting "initialInterval" defaultPolling.initial (readSeconds d),
    ← fs.defaulting "maxInterval" defaultPolling.max (readSeconds d)⟩

/-- Read the heartbeat interval. -/
def readHeartbeat (d : Document) (n : Node) : Reading UInt32 := do
  return .ofNat (← d.unsigned 4294967295 n)

/-- Read the level of the log, if one is set. -/
def readLogger (d : Document) (n : Node) : Reading (Option String) := do
  let fs ← d.fields ["level"] n
  fs.defaulting "level" none (d.optional d.text)

/-- The fields of the settings proper. -/
def configurationFields : List String :=
  ["nssfName", "sbi", "serviceNameList", "nrfUri", "webuiUri", "enableStreamingConfig",
    "streamingConfigUri", "heartbeatTimer", "polling", "supportedPlmnList",
    "supportedNssaiInPlmnList"]

/-- Read settings. -/
def readSettings (d : Document) (n : Node) : Reading Settings := do
  let top ← d.fields ["info", "configuration", "logger"] n
  let info ← top.required "info" (d.fields ["version", "description"])
  let fs ← top.required "configuration" (d.fields configurationFields)
  return {
    version := ← info.required "version" d.text
    description := ← info.defaulting "description" none (d.optional d.text)
    name := ← fs.defaulting "nssfName" none (d.optional d.text)
    interface := ← fs.defaulting "sbi" defaultInterface (readInterface d)
    services := ← fs.defaulting "serviceNameList" [] (d.list d.text)
    nrfUri := ← fs.defaulting "nrfUri" "" d.text
    webuiUri := ← fs.defaulting "webuiUri" none (d.optional d.text)
    streams := ← fs.defaulting "enableStreamingConfig" false d.bool
    streamUri := ← fs.defaulting "streamingConfigUri" none (d.optional d.text)
    heartbeat := ← fs.defaulting "heartbeatTimer" none (d.optional (readHeartbeat d))
    polling := ← fs.defaulting "polling" defaultPolling (readPolling d)
    plmns := ← fs.defaulting "supportedPlmnList" [] (d.list (readPlmn d))
    slices := ← fs.defaulting "supportedNssaiInPlmnList" [] (d.list (readSlices d))
    logLevel := (← top.defaulting "logger" none (d.optional (readLogger d))).join }

/-- Read and check the settings that a text holds. -/
def parse (text : String) : Except Error Settings :=
  match Document.parse text with
  | .error fault => .error (.unparsable fault.message)
  | .ok d =>
    match d.read? (readSettings d) with
    | some s => s.check
    | none => .error (.unparsable Fault.badValue.message)

end SliceSelection.Settings
