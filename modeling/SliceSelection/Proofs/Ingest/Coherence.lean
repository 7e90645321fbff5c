import SliceSelection.Proofs.Ingest.Grouping
import SliceSelection.Proofs.Polling.Session
import SliceSelection.Proofs.SliceStream.Play
import SliceSelection.Settings.Basic

/-!
# Slices in supported networks

A store is coherent if its networks are listed once each and slices are kept of none but these. The
check of the settings makes the store of the start coherent, and a list that is applied describes a
coherent one, in which every network is a key besides. So the store is coherent at any time, whether
its configuration is polled or streamed.
-/

namespace SliceSelection

/-- The networks are listed once each, and slices are kept of none but these. -/
structure SliceConfig.Coherent (c : SliceConfig) : Prop where
  nodup : c.plmns.Nodup
  listed : ∀ p ∈ c.slices, p ∈ c.plmns

namespace SliceConfig

variable {c : SliceConfig} {list : List WireEntry}

lemma coherent_ofWire (list : List WireEntry) : (ofWire list).Coherent :=
  ⟨nodup_firstMentions, fun _ => mem_slices_ofWire.mp⟩

/-- Outside the supported networks only the standardised slices may be served. -/
lemma Coherent.supportsPlmn (coherent : c.Coherent) {s : Snssai} {p : PlmnId}
    (special : s.isStandard = false) (serves : c.supportsSlice s p = true) :
    c.supportsPlmn p = true := by
  rw [supportsSlice, special, Bool.false_or] at serves
  exact decide_eq_true (coherent.listed p (SliceMap.mem_of_serves serves))

end SliceConfig

/-! ### The store of the start -/

namespace Settings

variable {s t : Settings}

lemma objection_of_check (checked : s.check = .ok t) : s.objection = none ∧ t = s := by
  unfold check at checked
  split at checked
  · cases checked
  · split at checked
    · cases checked
    · next fine => exact ⟨fine, (Except.ok.inj checked).symm⟩

lemma listed_of_objection (fine : s.objection = none) : ∀ e ∈ s.slices, e.1 ∈ s.plmns := by
  unfold objection at fine
  split at fine
  · cases fine
  split at fine
  · cases fine
  split at fine
  · cases fine
  · rw [Option.map_eq_none_iff, List.find?_eq_none] at fine
    simpa using fine

/-- Settings that pass their check start on a coherent store. -/
lemma coherent_initial (checked : s.check = .ok t) : t.initial.Coherent := by
  obtain ⟨fine, rfl⟩ := objection_of_check checked
  constructor
  case nodup => exact SliceConfig.nodup_firstMentions
  case listed =>
    intro p key
    obtain ⟨e, mem, rfl⟩ := List.mem_map.mp (SliceMap.mem_ofEntries.mp key)
    exact SliceConfig.mem_firstMentions.mpr (listed_of_objection fine e mem)

end Settings

/-! ### The store behind lists -/

/-- A store that is coherent behind some lists: slices are kept of the listed networks only, and of
each of them once a list was applied, and none but a standardised slice may be served in a network
that is not supported. -/
structure CoherentBehind (applied : List (List WireEntry)) (c : SliceConfig) : Prop extends
    c.Coherent where
  keys : applied ≠ [] → ∀ p, p ∈ c.slices ↔ p ∈ c.plmns
  supported : ∀ s p, s.isStandard = false → c.supportsSlice s p = true → c.supportsPlmn p = true

lemma SliceConfig.Coherent.behind {seed : SliceConfig} (coherent : seed.Coherent)
    (uses : List Feed.Use) :
    CoherentBehind (Feed.listsIn uses) ((Feed.ofStore seed).after uses).board.store := by
  have start : (Feed.ofStore seed).Knows := .ofStore
  have store : ((Feed.ofStore seed).after uses).board.store =
      (Feed.listsIn uses).getLast?.elim seed .ofWire := start.store_after
  generalize Feed.listsIn uses = applied at store ⊢
  generalize ((Feed.ofStore seed).after uses).board.store = c at store ⊢
  cases last : applied.getLast? with
  | none =>
    -- Nothing was applied, and the store is still that of the start.
    rw [last] at store
    obtain rfl : c = seed := store
    refine ⟨coherent, fun some => ?_, fun s p => coherent.supportsPlmn⟩
    exact absurd (List.getLast?_eq_none_iff.mp last) some
  | some list =>
    rw [last] at store
    obtain rfl : c = .ofWire list := store
    have coherent := SliceConfig.coherent_ofWire list
    exact ⟨coherent, fun _ p => SliceConfig.mem_slices_ofWire, fun s p => coherent.supportsPlmn⟩

/-- Under settings that pass their check the store is coherent at any time, whether lists are polled
or snapshots are streamed, and whatever they bring. -/
theorem coherent_of_check (s t : Settings) (checked : s.check = .ok t) :
    (∀ base backoff events,
      CoherentBehind (Feed.listsIn (Polling.usesIn events))
        ((Polling.Session.ofStore base backoff t.initial).after events).board.store) ∧
    ∀ sub script period turns,
      let x := (SliceStream.Play.ofScript sub t.initial script period).after turns
      CoherentBehind ((SliceStream.Session.ofStore sub t.initial).applied x.delivered)
        x.board.store := by
  have coherent := Settings.coherent_initial checked
  constructor
  · intro base backoff events
    have feed := Polling.Session.feed_after (.ofStore base backoff t.initial) events
    have behind := coherent.behind (Polling.usesIn events)
    exact (congrArg (·.board.store) feed) ▸ behind
  · intro sub script period turns x
    have follows : (SliceStream.Play.ofScript sub t.initial script period).Follows turns
        (.ofStore sub t.initial) x.delivered := SliceStream.Play.follows_ofScript rfl rfl turns
    obtain ⟨uses, feed, lists⟩ := follows.uses
    have behind := coherent.behind uses
    rw [lists] at behind
    exact (congrArg (·.board.store) feed) ▸ behind

/-- Settings of an instance that starts with one network and one slice and follows a stream. -/
def oneNetwork : Settings where
  version := "1.0.0"
  description := none
  name := none
  interface := Settings.defaultInterface
  services := ["nnssf-nsselection"]
  nrfUri := "http://nrf:8000"
  webuiUri := none
  streams := true
  streamUri := none
  heartbeat := none
  polling := Settings.defaultPolling
  plmns := [⟨"208", "93"⟩]
  slices := [(⟨"208", "93"⟩, [⟨1, "010203"⟩])]
  logLevel := none

/-- A stream that brings one slice of another network. -/
def anotherNetwork : SliceStream.ServiceScript :=
  ⟨[], [], [some [(0, .snapshot
    ⟨[⟨"a", some ⟨"2", "0a0b0c"⟩, some ⟨"s", some ⟨"001", "01"⟩⟩⟩], 1, 1⟩)]]⟩

/-- The store is coherent behind the other network, of which alone slices are kept. -/
theorem coherent_of_check_oneNetwork :
    let x := (SliceStream.Play.ofScript ⟨42, "nssf-0"⟩ oneNetwork.initial anotherNetwork 5000).after
      [.move, .move]
    oneNetwork.check = .ok oneNetwork ∧ x.board.store.plmns = [⟨"001", "01"⟩] ∧
      CoherentBehind [[⟨⟨"001", "01"⟩, [⟨2, some "0a0b0c"⟩]⟩]] x.board.store :=
  ⟨rfl, rfl, (coherent_of_check oneNetwork oneNetwork rfl).2 ⟨42, "nssf-0"⟩ anotherNetwork 5000
    [.move, .move]⟩

end SliceSelection
