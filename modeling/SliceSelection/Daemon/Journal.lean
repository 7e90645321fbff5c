import SliceSelection.Daemon.Log
import SliceSelection.Daemon.Rehearsal
import SliceSelection.Lifecycle.Exchange
import SliceSelection.Polling.Poller
import SliceSelection.Settings.Basic

/-!
# The journal of a run

What the daemon logs from its start to its end, when it is told to end as soon as it is ready: the
registration is tried once, ingestion begins and ends, and the instance is deregistered whether it
was registered or not.
-/

namespace SliceSelection.Daemon

open Lifecycle Registry

/-- What a run starts from. -/
structure Launch where
  /-- The version of the program. -/
  version : String
  /-- Where the settings were read. -/
  path : String
  /-- A file that was named for the log. -/
  logFile : Option String
  settings : Settings
  instanceId : String
  /-- What a watcher would subscribe with. -/
  subscription : SliceStream.Subscription

/-- The instance that is registered. -/
def Launch.self (l : Launch) : Instance := l.settings.instanceOf l.instanceId

/-! ### The registry -/

/-- What is logged when the state of an instance changes. -/
def moved (id : String) (a b : State) : Line :=
  ⟨.debug, "[" ++ id ++ "] " ++ a.name ++ " -> " ++ b.name⟩

/-- What is logged of a request, if it is sent at all. -/
def sent (r : Http.Request) : List Line :=
  match r.check with
  | .ok o => [⟨.debug, "SBI " ++ o.method.name ++ " " ++ o.uri.text⟩]
  | .error _ => []

/-- What is logged of the outcome of the first registration. -/
def registered (i : Identity) : RegisterOutcome → List Line
  | .created _ j =>
    (if j.instanceId = i.instanceId then [] else
      [⟨.info, "[nrf] NF instance id changed " ++ i.instanceId ++ " -> " ++ j.instanceId⟩]) ++
      [⟨.info, "[" ++ j.instanceId ++ "] NF registered (created) at " ++ j.registry⟩,
        moved j.instanceId .registering .registered]
  | .updated _ =>
    [⟨.info, "[" ++ i.instanceId ++ "] NF registered (updated)"⟩,
      moved i.instanceId .registering .registered]
  | .failed f =>
    [⟨.error, "[" ++ i.instanceId ++ "] NF registration failed: " ++ f.message⟩,
      moved i.instanceId .registering .unregistered,
      ⟨.warn, "[nrf] Retrying registration in " ++
        toString (Coordinator.defaultRetryDelay / 1000) ++ "s"⟩]

/-- What is logged of the outcome of the deregistration. -/
def deregistered (i : Identity) : DeregisterOutcome → List Line
  | .success => [⟨.info, "[" ++ i.instanceId ++ "] NF de-registered"⟩]
  | .failed f => [⟨.error, "[" ++ i.instanceId ++ "] NF de-registration failed: " ++ f.message⟩]

/-- The state that an answer leaves. -/
def stateAfter : Answer → State
  | .register (.failed _) => .unregistered
  | .deregister _ => .stopped
  | _ => .registered

/-- What is logged of a call and its answer in a state. A run this short sends no heartbeat. -/
def exchanged (s : State) : Call × Answer → List Line
  | (.register i p, .register outcome) =>
    moved i.instanceId s .registering :: sent (registerRequest i p) ++ registered i outcome
  | (.deregister i, .deregister outcome) =>
    ⟨.info, "[nrf] NF state machine stopped"⟩ :: moved i.instanceId s .deregistering ::
      sent (deregisterRequest i) ++ deregistered i outcome ++
      [moved i.instanceId .deregistering .stopped]
  | _ => []

/-- The calls of a run that is told to end at once, with their answers. -/
def exchanges (l : Launch) (peer : Http.Outgoing → Http.Reply) : List (Call × Answer) :=
  let board : Board := .ofStore l.settings.initial
  let c : Coordinator := .ofInstance l.self board Coordinator.defaultRetryDelay
  let start : Rehearsal Unit := ⟨.ofCoordinator (respondAtOnce peer) () c, none, []⟩
  let r := (start.run 0 0 []).lifecycle
  (r.calls.reverse.map (·.2)).zip r.answers.reverse

/-! ### Ingestion -/

/-- The name of the way in which configuration comes. -/
def sourceName (s : Settings) : String := if s.streams then "streaming" else "polling"

/-- What is logged when ingestion begins. -/
def ingestionBegun (l : Launch) : Line :=
  if l.settings.streams then
    ⟨.info, "[grpc] Started config watcher (client id " ++ Text.quote l.subscription.clientId ++
      ", restart counter " ++ toString l.subscription.restartCounter.toNat ++ ")"⟩
  else
    ⟨.info, "[poll] Started polling " ++ (Polling.Poller.ofBase (l.settings.webuiUri.getD "")
      l.settings.backoff (.ofStore l.settings.initial)).endpoint⟩

/-- Why there is no connection to a streaming service that is out of reach. -/
def refusal (address : String) : String :=
  match Http.Uri.parse address with
  | .ok _ => "transport error"
  | .error _ => "invalid URI"

/-- What is logged of a streaming service that is out of reach. -/
def connectionRefused (s : Settings) : List Line :=
  if s.streams then
    [⟨.error, "[grpc] " ++ (SliceStream.WatchError.connect
      (s.streamAddress ++ ": " ++ refusal s.streamAddress)).message⟩]
  else []

/-- What is logged when ingestion has ended. -/
def ingestionEnded (s : Settings) : Line :=
  if s.streams then ⟨.info, "[grpc] Config watcher stopped"⟩
  else ⟨.info, "[poll] Polling loop stopped"⟩

/-! ### The whole run -/

/-- What is logged before anything is tried. -/
def opening (l : Launch) : List Line :=
  [⟨.info, "NextGCore NSSF v" ++ l.version ++ " starting..."⟩,
    ⟨.info, "Configuration loaded from " ++ l.path⟩] ++
  l.logFile.toList.map (fun f => ⟨.warn, "Log file " ++ f ++ " ignored, logging to stderr"⟩) ++
  [⟨.info, "NSSF context initialized (nf_id=" ++ l.instanceId ++ ", nrf=" ++
      l.self.identity.registry ++ ", sbi=" ++ l.self.bindingIpv4 ++ ":" ++
      toString l.self.port.toNat ++ ")"⟩,
    ⟨.info, "Starting config ingestion (" ++ sourceName l.settings ++ ")"⟩]

/-- What is logged when a run that is ready is told to end. -/
def turning : List Line :=
  [⟨.info, "NextGCore NSSF ready"⟩, ⟨.info, "Received shutdown signal"⟩,
    ⟨.info, "NSSF terminating..."⟩]

/-- What is logged at the end. -/
def closing (s : Settings) : List Line :=
  [ingestionEnded s, ⟨.info, "NSSF terminated"⟩, ⟨.info, "NextGCore NSSF stopped"⟩]

/-- What a run logs that is told to end as soon as it is ready. The streaming service is out of
reach. -/
def journal (l : Launch) (peer : Http.Outgoing → Http.Reply) : List Line :=
  let beginning := opening l ++ [ingestionBegun l] ++ connectionRefused l.settings
  match exchanges l peer with
  | [] => beginning ++ turning ++ closing l.settings
  | first :: rest =>
    beginning ++ exchanged .unregistered first ++ turning ++
      rest.flatMap (exchanged (stateAfter first.2)) ++ closing l.settings

end SliceSelection.Daemon
