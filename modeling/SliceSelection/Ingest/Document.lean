import SliceSelection.Ingest.WireList
import SliceSelection.Registry.Profile

/-!
# The configuration document

The JSON form of the configuration list. An absent differentiator is left out, which keeps it
apart from an empty one, and an entry may leave out its slices when there are none.
-/

namespace SliceSelection

namespace WireSnssai

/-- The JSON form of a slice of the list. -/
def toJson (s : WireSnssai) : Json :=
  .record [("sst", some (.ofNat s.sst.toNat)), ("sd", s.sd.map .ofString)]

/-- Read a slice of the list. -/
def ofJson? (j : Json) : Option WireSnssai := do
  let fs ← j.fields? [⟨"sst", false⟩, ⟨"sd", true⟩]
  return ⟨← fs.required "sst" Json.uint8?, ← fs.optional "sd" Json.text?⟩

end WireSnssai

namespace WireEntry

/-- The JSON form of an entry. -/
def toJson (e : WireEntry) : Json :=
  .record [("plmnId", some e.plmnId.toJson),
    ("sNssaiList", some (.ofList WireSnssai.toJson e.slices))]

/-- Read an entry. -/
def ofJson? (j : Json) : Option WireEntry := do
  let fs ← j.fields? [⟨"plmnId", false⟩, ⟨"sNssaiList", true⟩]
  return ⟨← fs.required "plmnId" PlmnId.ofJson?,
    ← fs.defaulting "sNssaiList" [] (Json.list? WireSnssai.ofJson?)⟩

/-- The JSON form of a list. -/
def listToJson (entries : List WireEntry) : Json := .ofList toJson entries

/-- Read the list that a document holds. -/
def parseList? (document : String) : Option (List WireEntry) :=
  (Json.parse? document).bind (Json.list? ofJson?)

end WireEntry

end SliceSelection
