import SliceSelection.Lifecycle.Rehearsal
import SliceSelection.Registry.Client

/-!
# Calls as exchanges

A call of the registry is an exchange of messages: the request that it sends, and the answer that
the result of the exchange amounts to.
-/

namespace SliceSelection.Lifecycle

open Registry

namespace Call

/-- The request that a call sends. -/
def request : Call → Http.Request
  | register i p => registerRequest i p
  | update i patch => updateRequest i patch
  | deregister i => deregisterRequest i

/-- The answer that the result of the exchange amounts to. -/
def answer : Call → Exchange → Answer
  | register _ _, e => .register (.ofExchange e)
  | update _ _, e => .update (.ofExchange e)
  | deregister _, e => .deregister (.ofExchange e)

/-- Make a call of a peer. -/
def send (peer : Http.Outgoing → Http.Reply) (k : Call) : Answer :=
  k.answer (Http.send peer k.request)

end Call

/-- The registry that is a peer: it answers at once. -/
def respondAtOnce (peer : Http.Outgoing → Http.Reply) : Unit → Call → Delayed Answer × Unit :=
  fun _ k => (⟨0, k.send peer⟩, ())

end SliceSelection.Lifecycle
