import SliceSelection.Ingest.WireList
import SliceSelection.Text.Blank
import SliceSelection.Text.Quoted

/-!
# Streamed slices

The configuration service streams its slices one by one rather than network by network: a slice
has a name, an identifier whose type is a text, and a site that says in which network it is
served. `normalize` turns the slices of a snapshot into the configuration list. A slice that
lacks a network or an identifier is left out, and a type that is no number spoils the snapshot.
-/

namespace SliceSelection.SliceStream

/-- A slice identifier as it is streamed. -/
structure StreamedNssai where
  sst : String
  /-- The differentiator, or the empty text. -/
  sd : String
deriving DecidableEq, Repr

/-- Where a slice is served. -/
structure Site where
  name : String
  plmn : Option PlmnId
deriving DecidableEq, Repr

/-- A slice as it is streamed. -/
structure Slice where
  name : String
  nssai : Option StreamedNssai
  site : Option Site
deriving DecidableEq, Repr

/-- What asks for the stream. -/
structure Subscription where
  /-- The number that tells one start of the subscriber from another. -/
  restartCounter : UInt32
  clientId : String
deriving DecidableEq, Repr

/-- All slices at one time. -/
structure Snapshot where
  slices : List Slice
  /-- The number that tells one start of the service from another. -/
  restartCounter : UInt32
  /-- One if the snapshot was sent because the configuration changed. -/
  configUpdated : UInt32
deriving DecidableEq, Repr

/-- Whether a snapshot was sent because the configuration changed. -/
def Snapshot.isUpdate (s : Snapshot) : Bool := s.configUpdated == 1

/-! ### Slice types -/

/-- Why a text is no slice type. -/
inductive SstFault where
  | empty
  | invalidDigit
  | overflow
deriving DecidableEq, Repr

/-- What a fault says. -/
def SstFault.message : SstFault → String
  | empty => "cannot parse integer from empty string"
  | invalidDigit => "invalid digit found in string"
  | overflow => "number too large to fit in target type"

/-- Put a digit behind a number below 256. -/
def pushDigit (n : Nat) (c : Char) : Except SstFault Nat :=
  if !c.isDigit then .error .invalidDigit
  else if 255 < n * 10 + (c.toNat - 48) then .error .overflow
  else .ok (n * 10 + (c.toNat - 48))

/-- Read a slice type: decimal digits, before which a plus sign may stand. -/
def parseSst (cs : List Char) : Except SstFault UInt8 :=
  let digits : Except SstFault (List Char) :=
    match cs with
    | [] => .error .empty
    | ['+'] => .error .invalidDigit
    | '+' :: ds => .ok ds
    | ds => .ok ds
  digits.bind fun ds => (ds.foldlM pushDigit 0).map fun n => .ofNat n

/-! ### Normalisation -/

/-- What spoils a snapshot: the type of a slice that is no number. -/
structure BadSlice where
  name : String
  sst : String
  fault : SstFault
deriving DecidableEq, Repr

/-- What a bad slice says. -/
def BadSlice.message (b : BadSlice) : String :=
  "slice " ++ Text.quote b.name ++ " sst " ++ Text.quote b.sst ++ ": " ++ b.fault.message

/-- The entry that a slice makes, if it names a network and an identifier. -/
def Slice.entry (s : Slice) : Except BadSlice (Option WireEntry) :=
  match s.site.bind (·.plmn), s.nssai with
  | some plmn, some nssai =>
    match parseSst (Text.trimBlanks nssai.sst.toList) with
    | .ok sst => .ok (some ⟨plmn, [⟨sst, if nssai.sd.isEmpty then none else some nssai.sd⟩]⟩)
    | .error fault => .error ⟨s.name, nssai.sst, fault⟩
  | _, _ => .ok none

/-- The configuration list of slices. -/
def normalize (slices : List Slice) : Except BadSlice (List WireEntry) :=
  (slices.mapM Slice.entry).map (·.filterMap id)

/-! ### Errors -/

/-- Why the stream could not be followed. -/
inductive WatchError where
  | connect (reason : String)
  /-- The service refused the subscription with a status. -/
  | subscribe (code : Nat)
  /-- The stream broke with a status. -/
  | stream (code : Nat)
  | malformedSnapshot (reason : String)
deriving DecidableEq, Repr

/-- What an error says. -/
def WatchError.message : WatchError → String
  | connect reason => "failed to connect to config server: " ++ reason
  | subscribe code => "failed to subscribe to network slices: status " ++ toString code
  | stream code => "network slice stream failed: status " ++ toString code
  | malformedSnapshot reason => "malformed network slice snapshot: " ++ reason

end SliceSelection.SliceStream
