import SliceSelection.Ingest.Applier
import SliceSelection.SliceStream.Message

/-!
# The watcher

The watcher keeps a connection to the configuration service and a subscription on it. On every
tick without a stream it connects if it has to, probes the connection, and subscribes if it is
ready; a connection that was not ready three times in a row is given up. Each snapshot replaces
the configuration, with one exception: an empty one counts only if it was sent because the
configuration changed, and not by a service that has just restarted.
-/

namespace SliceSelection.SliceStream

/-- The number of probes in a row that have to fail before a connection is given up. -/
def notReadyLimit : Nat := 3

/-- The milliseconds between two ticks. -/
def defaultTick : Nat := 5000

/-- The name a subscriber gives: that of its host, or none. -/
def clientIdOf (hostname : Option String) : String := hostname.getD ""

/-- A watcher. -/
structure Watcher where
  /-- What it subscribes with. -/
  subscription : Subscription
  /-- Whether a connection is held. -/
  connected : Bool
  /-- The number of failed probes in a row that were counted. -/
  notReady : Nat
  /-- Whether a stream is held. -/
  subscribed : Bool
  /-- The restart counter of the service that was seen last. -/
  peerCounter : Option UInt32
  applier : Applier
deriving DecidableEq, Repr

/-- What a watcher holds. -/
inductive Phase where
  | noClient | connected | subscribed
deriving DecidableEq, Repr

/-- The name of a phase. -/
def Phase.name : Phase → String
  | .noClient => "NoClient"
  | .connected => "ConnectedNoStream"
  | .subscribed => "Subscribed"

/-- What a tick asked, and whether it was granted. -/
inductive Probe where
  | connect (ok : Bool)
  | ready (ok : Bool)
  | subscribe (s : Subscription) (ok : Bool)
deriving DecidableEq, Repr

/-- How the service behaves during a tick. -/
structure Conditions where
  accepts : Bool
  isReady : Bool
  streams : Bool
deriving DecidableEq, Repr

namespace Watcher

/-- A watcher that has not connected yet. -/
def ofSubscription (s : Subscription) (applier : Applier) : Watcher :=
  ⟨s, false, 0, false, none, applier⟩

/-- What a watcher holds: a stream outlives the connection it was opened on. -/
def phase (w : Watcher) : Phase :=
  if w.subscribed then .subscribed else if w.connected then .connected else .noClient

/-! ### Ticks -/

/-- Probe the connection, and subscribe if it is ready. -/
def probe (w : Watcher) (c : Conditions) : Watcher × List Probe :=
  if c.isReady then
    ({ w with notReady := 0, subscribed := w.subscribed || c.streams },
      [.ready true, .subscribe w.subscription c.streams])
  else if notReadyLimit ≤ w.notReady + 1 then
    ({ w with connected := false, notReady := 0 }, [.ready false])
  else ({ w with notReady := w.notReady + 1 }, [.ready false])

/-- One tick: connect if there is no connection, then probe. -/
def tick (w : Watcher) (c : Conditions) : Watcher × List Probe :=
  if w.connected then w.probe c
  else if c.accepts then
    let (w, probes) := { w with connected := true, notReady := 0 }.probe c
    (w, .connect true :: probes)
  else (w, [.connect false])

/-! ### Snapshots -/

/-- Take a snapshot. -/
def receive (w : Watcher) (s : Snapshot) (b : Board) : Option ApplyOutcome × Watcher × Board :=
  if s.slices.isEmpty && w.peerCounter.any (· != s.restartCounter) then (none, w, b)
  else
    let w := { w with peerCounter := some s.restartCounter }
    if s.slices.isEmpty && !s.isUpdate then (none, w, b)
    else match normalize s.slices with
      | .error _ => (none, w, b)
      | .ok list =>
        let (outcome, applier, b) := w.applier.apply list b
        (some outcome, { w with applier := applier }, b)

/-- Lose the stream, by its end or by an error. -/
def loseStream (w : Watcher) : Watcher := { w with subscribed := false }

end Watcher

end SliceSelection.SliceStream
