import SliceSelection.Registry.Identity
import SliceSelection.Registry.Profile

/-!
# The instance

What this network function knows of itself: its identity at the registry, the state of its
registration, and what it advertises. The profile it registers is built from that and from the
networks it supports at that time.
-/

namespace SliceSelection.Registry

/-- The state of a registration. -/
inductive State where
  | unregistered | registering | registered | updating | deregistering | stopped
deriving DecidableEq, Repr

namespace State

/-- All states. -/
def all : List State :=
  [unregistered, registering, registered, updating, deregistering, stopped]

/-- The name of a state. -/
def name : State → String
  | unregistered => "UNREGISTERED"
  | registering => "REGISTERING"
  | registered => "REGISTERED"
  | updating => "UPDATING"
  | deregistering => "DEREGISTERING"
  | stopped => "STOPPED"

/-- Whether shutdown has begun. -/
def isFinal : State → Bool
  | deregistering => true
  | stopped => true
  | _ => false

end State

/-- The address that is advertised and bound where none is set. -/
def defaultIpv4 : String := "127.0.0.31"

/-- The port that is advertised where none is set. -/
def defaultPort : UInt16 := 8000

/-- An instance of the network function. -/
structure Instance where
  identity : Identity
  /-- A name for readers. -/
  name : Option String
  scheme : UriScheme
  /-- The address that the profile gives. -/
  registerIpv4 : String
  /-- The address that is listened on. -/
  bindingIpv4 : String
  port : UInt16
  pem : Option String
  key : Option String
  services : List Service
  /-- The seconds between two heartbeats that the profile offers. -/
  heartbeat : Option UInt32
  state : State
deriving DecidableEq, Repr

namespace Instance

/-- An instance with nothing set but its identity. -/
def ofIdentity (identity : Identity) : Instance where
  identity := identity
  name := none
  scheme := .http
  registerIpv4 := defaultIpv4
  bindingIpv4 := defaultIpv4
  port := defaultPort
  pem := none
  key := none
  services := []
  heartbeat := none
  state := .unregistered

/-- The instance in another state. -/
def withState (i : Instance) (s : State) : Instance := { i with state := s }

/-- The profile that is registered: no networks and no services are left out rather than given
as empty lists. -/
def profile (i : Instance) (plmns : List PlmnId) : Profile where
  instanceId := i.identity.instanceId
  type := .nssf
  status := .registered
  heartbeat := i.heartbeat
  plmns := if plmns.isEmpty then none else some plmns
  ipv4Addresses := [i.registerIpv4]
  services := if i.services.isEmpty then none else some i.services

end Instance

/-- The services under names, numbered in their order, at one endpoint. -/
def advertise (names : List String) (scheme : UriScheme) (ipv4 : String) (port : UInt16) :
    List Service :=
  names.zipIdx.map fun (name, index) =>
    { instanceId := toString index
      name := name
      versions := [⟨"v1", "1.0.0"⟩]
      scheme := scheme
      status := .registered
      endpoints := some [⟨some ipv4, some .tcp, some port⟩] }

end SliceSelection.Registry
