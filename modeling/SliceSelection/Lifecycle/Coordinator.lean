import SliceSelection.Ingest.Applier
import SliceSelection.Lifecycle.Heartbeat
import SliceSelection.Registry.Instance
import SliceSelection.Registry.Outcome
import SliceSelection.Registry.Patch

/-!
# The coordinator

The coordinator keeps the instance registered. It registers at the start and tries again until
the registry accepts; then it listens, and registers anew when other networks are announced and
sends a heartbeat when the timer runs out. A heartbeat that shows the registration to be lost is
answered by registering, once; if that fails the timer is armed again. Shutdown ends listening
and stops the timer, and then the instance is deregistered, once.

At most one call of the registry is under way. The coordinator is a machine: an event is either
enabled or not, and one that is enabled changes the state and may begin calls.
-/

namespace SliceSelection.Lifecycle

open Registry

/-- Why the instance is registered. -/
inductive Trigger where
  | boot | plmnChange | lostHeartbeat
deriving DecidableEq, Repr

/-- A call of the registry. -/
inductive Call where
  | register (identity : Identity) (profile : Profile)
  | update (identity : Identity) (patch : List PatchItem)
  | deregister (identity : Identity)
deriving Repr

/-- The outcome of a call. -/
inductive Answer where
  | register (outcome : RegisterOutcome)
  | update (outcome : UpdateOutcome)
  | deregister (outcome : DeregisterOutcome)
deriving DecidableEq, Repr

/-- What the coordinator listens for. -/
inductive Notice where
  /-- Other networks were announced. -/
  | plmnsChanged (plmns : List PlmnId)
  /-- The heartbeat timer ran out. -/
  | heartbeatDue (generation : Nat)
deriving DecidableEq, Repr

/-- The name of a notice. -/
def Notice.name : Notice → String
  | plmnsChanged _ => "PLMN_CONFIG_CHANGED"
  | heartbeatDue _ => "NF_INSTANCE_HEARTBEAT_INTERVAL"

/-- What the coordinator is doing. -/
inductive Stage where
  /-- The first registration is due. -/
  | starting
  /-- The next attempt of the first registration comes at a time. -/
  | retrying (due : Nat)
  /-- A registration with this profile is under way. -/
  | registering (trigger : Trigger) (sent : Profile)
  /-- A heartbeat is under way. -/
  | updating
  | listening
  /-- Listening has ended. -/
  | stopped
  /-- The deregistration is under way. -/
  | deregistering
  | ended
deriving DecidableEq, Repr

/-- The coordinator and all it looks at. -/
structure Coordinator where
  /-- The time in milliseconds. -/
  now : Nat
  self : Instance
  board : Board
  timer : Heartbeat
  stage : Stage
  /-- Whether the channel is listened to: it is until it is found to be closed. -/
  hearing : Bool
  cancelled : Bool
  /-- The milliseconds between two attempts of the first registration. -/
  retryDelay : Nat
deriving DecidableEq

namespace Coordinator

/-- The milliseconds between two attempts where nothing else is set. -/
def defaultRetryDelay : Nat := 2000

/-- A coordinator at the start. -/
def ofInstance (self : Instance) (board : Board) (retryDelay : Nat) : Coordinator :=
  ⟨0, self, board, .idle, .starting, true, false, retryDelay⟩

/-! ### Registering -/

/-- Begin a registration with the networks supported now. -/
def register (c : Coordinator) (t : Trigger) : Coordinator × List Call :=
  let self := c.self.withState .registering
  let profile := self.profile c.board.store.plmns
  ({ c with self := self, stage := .registering t profile }, [.register self.identity profile])

/-- Take the acceptance of a registration, which may have given a new identity. -/
def accepted (c : Coordinator) (t : Trigger) (sent : Profile) (echoed : Option Profile)
    (identity : Identity) : Coordinator :=
  { c with
    self := { c.self with identity := identity, state := .registered }
    timer := c.timer.start c.now
      ((echoed.bind (·.heartbeatInterval)).or sent.heartbeatInterval)
    board := if t = .boot then { c.board with channel := c.board.channel.markRead } else c.board
    stage := .listening }

/-- Take the failure of a registration. -/
def refused (c : Coordinator) (t : Trigger) : Coordinator :=
  let c := { c with self := c.self.withState .unregistered }
  match t with
  | .boot => { c with stage := .retrying (c.now + c.retryDelay) }
  | .plmnChange => { c with stage := .listening }
  | .lostHeartbeat => { c with stage := .listening, timer := c.timer.refresh c.now none }

/-- Take the outcome of a registration. -/
def registered (c : Coordinator) (t : Trigger) (sent : Profile) : RegisterOutcome → Coordinator
  | .created echoed identity => c.accepted t sent echoed identity
  | .updated echoed => c.accepted t sent echoed c.self.identity
  | .failed _ => c.refused t

/-! ### Handling notices -/

/-- Begin a heartbeat. -/
def beat (c : Coordinator) : Coordinator × List Call :=
  ({ c with self := c.self.withState .updating, stage := .updating },
    [.update c.self.identity heartbeatPatch])

/-- Take a notice: once shutdown has begun none counts, and of the expiries of the timer only the
current one does. -/
def handle (c : Coordinator) : Notice → Coordinator × List Call
  | .plmnsChanged _ => if c.self.state.isFinal then (c, []) else c.register .plmnChange
  | .heartbeatDue g =>
    if !c.timer.isCurrent g || c.self.state.isFinal then (c, []) else c.beat

/-- The heartbeat did its work: the instance is registered, and the timer runs again. -/
def kept (c : Coordinator) (echoed : Option Profile) : Coordinator :=
  { c with
    self := c.self.withState .registered
    timer := c.timer.refresh c.now (echoed.bind (·.heartbeatInterval))
    stage := .listening }

/-- Take the outcome of a heartbeat. -/
def updated (c : Coordinator) : UpdateOutcome → Coordinator × List Call
  | .success echoed => (c.kept echoed, [])
  | .rejected problem =>
    if ProblemDetails.losesRegistration problem.status then c.register .lostHeartbeat
    else (c.kept none, [])
  | .failed _ => c.register .lostHeartbeat

/-- Begin the deregistration. -/
def deregister (c : Coordinator) : Coordinator × List Call :=
  ({ c with self := c.self.withState .deregistering, stage := .deregistering },
    [.deregister c.self.identity])

/-- The next thing to do while listening: to stop, to take announced networks, to give up a
closed channel, or to take an expiry, in this order. -/
def listen (c : Coordinator) : Option (Coordinator × List Call) :=
  if c.cancelled then some ({ c with stage := .stopped, timer := c.timer.stop }, [])
  else if c.hearing && c.board.channel.unread then
    let read := { c.board with channel := c.board.channel.markRead }
    some ({ c with board := read }.handle (.plmnsChanged c.board.channel.latest))
  else if c.hearing && c.board.channel.closed then some ({ c with hearing := false }, [])
  else c.timer.take.map fun (g, timer) => { c with timer := timer }.handle (.heartbeatDue g)

/-! ### The machine -/

/-- What happens to a coordinator. -/
inductive Event where
  /-- Ingestion leaves the board so. -/
  | board (b : Board)
  /-- Shutdown begins. -/
  | cancel
  /-- Time passes, and what is due at its end happens. -/
  | elapse (milliseconds : Nat)
  /-- Time passes, and what is due at its end is still to happen. -/
  | approach (milliseconds : Nat)
  /-- The coordinator does what is to be done next. -/
  | act
  /-- The wait for the next attempt is over. -/
  | retry
  /-- The registry answers the call under way. -/
  | answer (a : Answer)
  /-- Shutdown goes on with the deregistration. -/
  | deregister

/-- What is done next without waiting: a first attempt, giving up the wait for another one, and
whatever there is while listening. -/
def act (c : Coordinator) : Option (Coordinator × List Call) :=
  match c.stage with
  | .starting => some (c.register .boot)
  | .retrying _ => if c.cancelled then some ({ c with stage := .listening }, []) else none
  | .listening => c.listen
  | _ => none

/-- The next attempt, if its time has come. -/
def retry (c : Coordinator) : Option (Coordinator × List Call) :=
  match c.stage with
  | .retrying due => if due ≤ c.now then some (c.register .boot) else none
  | _ => none

/-- Take an answer to the call under way. -/
def answer (c : Coordinator) (a : Answer) : Option (Coordinator × List Call) :=
  match c.stage, a with
  | .registering t sent, .register outcome => some (c.registered t sent outcome, [])
  | .updating, .update outcome => some (c.updated outcome)
  | .deregistering, .deregister _ =>
    some ({ c with self := c.self.withState .stopped, stage := .ended }, [])
  | _, _ => none

/-- The times at which something is due: the next attempt and the end of the timer. -/
def deadlines (c : Coordinator) : List Nat :=
  c.timer.due.toList ++ match c.stage with
    | .retrying due => [due]
    | _ => []

/-- Whether the coordinator waits. -/
def isWaiting (c : Coordinator) : Bool := c.act.isNone && c.retry.isNone

/-- Whether time may pass: only while the coordinator waits, and up to the next deadline. -/
def mayPass (c : Coordinator) (milliseconds : Nat) : Bool :=
  c.isWaiting && c.deadlines.all (c.now + milliseconds ≤ ·)

/-- Let time pass, and let the timer run out if its time has come. -/
def elapse (c : Coordinator) (milliseconds : Nat) : Option (Coordinator × List Call) :=
  let now := c.now + milliseconds
  if c.mayPass milliseconds then some ({ c with now := now, timer := c.timer.elapse now }, [])
  else none

/-- Let time pass, and leave the timer to run out behind whatever else happens at that time. -/
def approach (c : Coordinator) (milliseconds : Nat) : Option (Coordinator × List Call) :=
  if c.mayPass milliseconds then some ({ c with now := c.now + milliseconds }, []) else none

/-- What an event does, if it is enabled. -/
def step (c : Coordinator) : Event → Option (Coordinator × List Call)
  | .board b => some ({ c with board := b }, [])
  | .cancel => some ({ c with cancelled := true }, [])
  | .elapse milliseconds => c.elapse milliseconds
  | .approach milliseconds => c.approach milliseconds
  | .act => c.act
  | .retry => c.retry
  | .answer a => c.answer a
  | .deregister => if c.stage = .stopped then some c.deregister else none

end Coordinator

end SliceSelection.Lifecycle
