import SliceSelection.SliceMap

/-!
# The configuration list

The configuration service describes the supported networks as a list of entries, each naming a
network and some of its slices. Entries of one network may be spread over the list, and a slice
may leave its differentiator out. `SliceConfig.ofWire` gives the list its meaning: the networks
in order of first mention, and for each network the union of the slices of its entries, an
absent differentiator read as the empty one.
-/

namespace SliceSelection

/-- A slice as the configuration service writes it: the differentiator may be absent. -/
structure WireSnssai where
  sst : UInt8
  sd : Option String
deriving DecidableEq, Repr, Inhabited

/-- The slice that is meant: an absent differentiator is the empty one. -/
def WireSnssai.toSnssai (s : WireSnssai) : Snssai := .ofOptionalSd s.sst s.sd

/-- One entry of the configuration list: a network and some of its slices. -/
structure WireEntry where
  plmnId : PlmnId
  slices : List WireSnssai
deriving DecidableEq, Repr, Inhabited

/-- A slice configuration: the supported networks, and the slices served in each. -/
structure SliceConfig where
  /-- The supported networks, in the order in which they are announced. -/
  plmns : List PlmnId
  /-- The slices served in each network. -/
  slices : SliceMap
deriving DecidableEq, Inhabited

namespace SliceConfig

/-- The configuration without networks. -/
def empty : SliceConfig := ⟨[], ∅⟩

/-- The networks of a list in order of first mention, each once. -/
def firstMentions (ps : List PlmnId) : List PlmnId :=
  ps.foldl (fun seen p => if p ∈ seen then seen else seen ++ [p]) []

/-- The configuration that a list describes. -/
def ofWire (entries : List WireEntry) : SliceConfig where
  plmns := firstMentions (entries.map (·.plmnId))
  slices := .ofEntries (entries.map fun e => (e.plmnId, e.slices.map (·.toSnssai)))

/-! ### Queries -/

/-- Whether a network is supported. -/
def supportsPlmn (c : SliceConfig) (p : PlmnId) : Bool := p ∈ c.plmns

/-- Whether a slice may be served in a network: a standardised one may everywhere. -/
def supportsSlice (c : SliceConfig) (s : Snssai) (p : PlmnId) : Bool :=
  s.isStandard || c.slices.serves p s

end SliceConfig

end SliceSelection
