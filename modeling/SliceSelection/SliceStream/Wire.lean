import SliceSelection.SliceStream.Field
import SliceSelection.SliceStream.Message
import SliceSelection.Text.Utf8

/-!
# Messages on the wire

How the messages of the stream are written and read. A part that has its default is not written,
while a message inside of another is written whenever it is present. A reader takes fields in any
order: of a part that comes several times the last stays, several occurrences of an inner message
are merged, and fields that the message does not have are read over.
-/

namespace SliceSelection.SliceStream

/-! ### Writing -/

/-- A text, unless it is empty. -/
def writeText (number : Nat) (s : String) : Bytes :=
  if s.isEmpty then [] else writeBytes number (Text.Utf8.encode s)

/-- A counter, unless it is zero. -/
def writeCounter (number : Nat) (n : UInt32) : Bytes :=
  if n = 0 then [] else writeNumber number n.toNat

/-- An inner message, if it is present. -/
def writeInner (number : Nat) (write : α → Bytes) : Option α → Bytes
  | none => []
  | some m => writeBytes number (write m)

/-- The bytes of a network identity. -/
def writePlmn (p : PlmnId) : Bytes := writeText 1 p.mcc ++ writeText 2 p.mnc

/-- The bytes of a slice identifier. -/
def StreamedNssai.toBytes (n : StreamedNssai) : Bytes := writeText 1 n.sst ++ writeText 2 n.sd

/-- The bytes of a site. -/
def Site.toBytes (s : Site) : Bytes := writeText 1 s.name ++ writeInner 3 writePlmn s.plmn

/-- The bytes of a slice. -/
def Slice.toBytes (s : Slice) : Bytes :=
  writeText 1 s.name ++ writeInner 2 StreamedNssai.toBytes s.nssai ++
    writeInner 4 Site.toBytes s.site

/-- The bytes of a snapshot. -/
def Snapshot.toBytes (s : Snapshot) : Bytes :=
  s.slices.flatMap (fun i => writeBytes 1 i.toBytes) ++ writeCounter 2 s.restartCounter ++
    writeCounter 3 s.configUpdated

/-- The bytes of a subscription. -/
def Subscription.toBytes (s : Subscription) : Bytes :=
  writeCounter 1 s.restartCounter ++ writeText 2 s.clientId

/-! ### Reading -/

/-- The depth to which messages and groups nest. -/
def maxDepth : Nat := 100

/-- The text that a value holds. -/
def Value.text? : Value → Option String
  | .bytes content => (Text.Utf8.decode content).toOption
  | _ => none

/-- The counter that a value holds: its low 32 bits. -/
def Value.counter? : Value → Option UInt32
  | .varint n => some (.ofNat n)
  | _ => none

/-- Take the fields of an inner message into one that may have been begun. -/
def Value.inner? (read : α → Bytes → Option α) (blank : α) (begun : Option α) :
    Value → Option α
  | .bytes content => read (begun.getD blank) content
  | _ => none

/-- Take the fields of a message, one after the other. -/
def mergeFields (depth : Nat) (take : α → Field → Option α) (m : α) (bytes : Bytes) : Option α :=
  (readFields (maxDepth - depth) [] bytes).bind (·.foldlM take m)

/-- Take the fields of a network identity. -/
def mergePlmn (depth : Nat) : PlmnId → Bytes → Option PlmnId :=
  mergeFields depth fun p f =>
    match f.number with
    | 1 => f.value.text?.map fun s => { p with mcc := s }
    | 2 => f.value.text?.map fun s => { p with mnc := s }
    | _ => some p

/-- Take the fields of a slice identifier. -/
def StreamedNssai.merge (depth : Nat) : StreamedNssai → Bytes → Option StreamedNssai :=
  mergeFields depth fun n f =>
    match f.number with
    | 1 => f.value.text?.map fun s => { n with sst := s }
    | 2 => f.value.text?.map fun s => { n with sd := s }
    | _ => some n

/-- Take the fields of a site. -/
def Site.merge (depth : Nat) : Site → Bytes → Option Site :=
  mergeFields depth fun s f =>
    match f.number with
    | 1 => f.value.text?.map fun t => { s with name := t }
    | 3 => (f.value.inner? (mergePlmn (depth + 1)) ⟨"", ""⟩ s.plmn).map fun p =>
        { s with plmn := some p }
    | _ => some s

/-- Take the fields of a slice. -/
def Slice.merge (depth : Nat) : Slice → Bytes → Option Slice :=
  mergeFields depth fun s f =>
    match f.number with
    | 1 => f.value.text?.map fun t => { s with name := t }
    | 2 => (f.value.inner? (StreamedNssai.merge (depth + 1)) ⟨"", ""⟩ s.nssai).map fun n =>
        { s with nssai := some n }
    | 4 => (f.value.inner? (Site.merge (depth + 1)) ⟨"", none⟩ s.site).map fun t =>
        { s with site := some t }
    | _ => some s

/-- Read a snapshot. -/
def Snapshot.ofBytes? : Bytes → Option Snapshot :=
  mergeFields 0 (fun s f =>
    match f.number with
    | 1 => (f.value.inner? (Slice.merge 1) ⟨"", none, none⟩ none).map fun i =>
        { s with slices := s.slices ++ [i] }
    | 2 => f.value.counter?.map fun n => { s with restartCounter := n }
    | 3 => f.value.counter?.map fun n => { s with configUpdated := n }
    | _ => some s) ⟨[], 0, 0⟩

/-- Read a subscription. -/
def Subscription.ofBytes? : Bytes → Option Subscription :=
  mergeFields 0 (fun s f =>
    match f.number with
    | 1 => f.value.counter?.map fun n => { s with restartCounter := n }
    | 2 => f.value.text?.map fun t => { s with clientId := t }
    | _ => some s) ⟨0, ""⟩

end SliceSelection.SliceStream
