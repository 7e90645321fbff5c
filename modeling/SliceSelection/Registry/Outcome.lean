import SliceSelection.Http.Error
import SliceSelection.Registry.Identity
import SliceSelection.Registry.Problem
import SliceSelection.Registry.Profile

/-!
# Outcomes of registry calls

Every call is tried once, and its outcome says what the registry made of it. What to try again is
up to the caller.
-/

namespace SliceSelection.Registry

/-- Why a call came to nothing. -/
inductive Failure where
  | transport (e : Http.Error)
  | unexpectedStatus (status : UInt16)
  | malformed (reason : String)
deriving DecidableEq, Repr

/-- What a failure says. -/
def Failure.message : Failure → String
  | transport e => "transport failure: " ++ e.message
  | unexpectedStatus status => "unexpected status code: " ++ toString status.toNat
  | malformed reason => "malformed response: " ++ reason

/-- The outcome of registering. -/
inductive RegisterOutcome where
  /-- A new record, whose identity the registry chose. -/
  | created (profile : Option Profile) (identity : Identity)
  /-- The record that was there is replaced. -/
  | updated (profile : Option Profile)
  | failed (f : Failure)
deriving DecidableEq, Repr

/-- The profile that the registry echoed. -/
def RegisterOutcome.profile : RegisterOutcome → Option Profile
  | created p _ => p
  | updated p => p
  | failed _ => none

/-- The outcome of an update. -/
inductive UpdateOutcome where
  | success (profile : Option Profile)
  /-- The registry explained why it refused. -/
  | rejected (problem : ProblemDetails)
  | failed (f : Failure)
deriving DecidableEq, Repr

/-- The outcome of deregistering. -/
inductive DeregisterOutcome where
  | success
  | failed (f : Failure)
deriving DecidableEq, Repr

end SliceSelection.Registry
