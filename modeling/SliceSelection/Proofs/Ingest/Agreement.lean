import Mathlib.Tactic.Common
import SliceSelection.Proofs.Json.RoundTrip
import SliceSelection.Proofs.Polling.Attempts
import SliceSelection.Proofs.Settings.Reading
import SliceSelection.Proofs.SliceStream.Flattened

/-!
# Sources that agree

A list may come from three sources: the settings of the start, the body of a poll, and the slices of
a snapshot. All of them describe the same configuration. So an instance that starts on what its
settings say and is then told the same by a source stays as it is and announces nothing.
-/

namespace SliceSelection

/-! ### Lists that change nothing -/

/-- A list that describes what is in the store is not seen on the board. -/
lemma Applier.Applies.board_eq {a a' : Applier} {list : List WireEntry} {b b' : Board}
    {outcome : ApplyOutcome} (applies : Applies a list b outcome a' b') (knows : a.Knows b)
    (same : .ofWire list = b.store) : b' = b := by
  cases applies with
  | repeated => rfl
  | moved => rw [same]
  | published _ other =>
    exact absurd (knows.announced.trans (congrArg SliceConfig.plmns same).symm) other

lemma Feed.Knows.board_after {f : Feed} (knows : f.Knows) (read : f.board.channel.unread = false)
    {uses : List Use} (same : ∀ list ∈ listsIn uses, .ofWire list = f.board.store) :
    (f.after uses).board = f.board := by
  induction uses generalizing f with
  | nil => rfl
  | cons u uses ih =>
    have board : (f.step u).board = f.board := by
      cases u with
      | apply list => exact (f.applies list).board_eq knows (same list (.head _))
      | read => simp [Feed.step, Channel.take, read]
    have later : ∀ list ∈ listsIn uses, .ofWire list = (f.step u).board.store := by
      intro list mem
      rw [board]
      cases u with
      | apply => exact same list (.tail _ mem)
      | read => exact same list mem
    rw [after_cons, ih knows.step (board ▸ read) later, board]

/-! ### Polls -/

namespace Polling

variable {list : List WireEntry}

/-- The text of a list is the body of an answer that brings it. -/
lemma brings_of_text {a : Http.Answer} (contentType : a.kept? "content-type" = some Http.jsonType)
    (status : a.status = 200)
    (body : a.body = Text.Utf8.encode (WireEntry.listToJson list).text) : a.Brings list where
  contentType := ⟨_, contentType, List.infix_rfl⟩
  status := status
  body := ⟨_, body.symm, WireEntry.lawful.list.readsBack list⟩

lemma Session.board_behind (base : String) (backoff : Backoff) {arrivals : List Arrival}
    (same : ∀ l ∈ listsBrought arrivals, SliceConfig.ofWire l = .ofWire list) :
    ((ofStore base backoff (.ofWire list)).behind arrivals).board = .ofStore (.ofWire list) := by
  have knows : (ofStore base backoff (.ofWire list)).feed.Knows := Feed.Knows.ofStore
  rw [← listsIn_usesIn] at same
  have quiet := knows.board_after rfl same
  rwa [← feed_behind] at quiet

end Polling

/-! ### Snapshots -/

namespace SliceStream

variable {list : List WireEntry}

lemma Session.exists_of_mem_applied {x : Session} {ss : List Snapshot} {l : List WireEntry}
    (mem : l ∈ x.applied ss) : ∃ s ∈ ss, normalize s.slices = .ok l := by
  induction ss generalizing x with
  | nil => cases mem
  | cons s ss ih =>
    rw [applied_cons, List.mem_append] at mem
    rcases mem with now | later
    · unfold applied? at now
      split at now
      · refine ⟨s, .head _, ?_⟩
        cases normal : normalize s.slices with
        | error bad => simp [normal, Except.toOption] at now
        | ok list => simp_all [Except.toOption]
      · cases now
    · obtain ⟨t, mem, normal⟩ := ih later
      exact ⟨t, .tail _ mem, normal⟩

lemma Play.board_after {sub : Subscription} {script : ServiceScript} {period : Nat}
    (turns : List Turn)
    (same : ∀ s ∈ script.brings, ∀ l, normalize s.slices = .ok l →
      SliceConfig.ofWire l = .ofWire list) :
    ((ofScript sub (.ofWire list) script period).after turns).board =
      .ofStore (.ofWire list) := by
  have follows : (ofScript sub (.ofWire list) script period).Follows turns
      (.ofStore sub (.ofWire list)) _ := follows_ofScript rfl rfl turns
  obtain ⟨uses, feed, lists⟩ := follows.uses
  have brings : script.brings = _ ++ _ := follows.pending
  have knows : (ofScript sub (.ofWire list) script period).session.feed.Knows :=
    Feed.Knows.ofStore
  have quiet : ∀ l ∈ Feed.listsIn uses, SliceConfig.ofWire l = .ofWire list := by
    intro l mem
    rw [lists] at mem
    obtain ⟨s, delivered, normal⟩ := Session.exists_of_mem_applied mem
    exact same s (brings ▸ List.mem_append_left _ delivered) l normal
  exact (congrArg Feed.board feed).trans (knows.board_after rfl quiet)

end SliceStream

/-- Sources of a list say the same. -/
structure SourcesAgree (list : List WireEntry) : Prop where
  /-- Settings with its networks and its entries start on what it describes. -/
  initial : ∀ s : Settings, s.plmns = list.map (·.plmnId) →
    s.slices = list.map (fun e => (e.plmnId, e.slices.map (·.toSnssai))) →
      s.initial = .ofWire list
  /-- So do settings that are accepted, if their document writes the list down. -/
  settings : ∀ text d s, Yaml.Document.parse text = .ok d → Settings.HoldsList list d.root →
    Settings.parse text = .ok s → s.initial = .ofWire list
  /-- They are accepted if only the two addresses are set besides. -/
  accepted : ∀ text d nrfUri webuiUri, Yaml.Document.parse text = .ok d →
    Settings.SetsList nrfUri webuiUri list d.root → nrfUri ≠ "" → webuiUri ≠ "" →
      ∃ s, Settings.parse text = .ok s ∧ s.initial = .ofWire list
  /-- An answer with the text of the list brings it. -/
  answer : ∀ a : Http.Answer, a.kept? "content-type" = some Http.jsonType → a.status = 200 →
    a.body = Text.Utf8.encode (WireEntry.listToJson list).text → a.Brings list
  /-- Slices as which the list is streamed are accepted and describe the same, if none of its
  entries is without a slice. -/
  slices : (∀ e ∈ list, e.slices ≠ []) → ∀ slices,
    SliceStream.Streamed (WireEntry.flatten list) slices →
      ∃ l, SliceStream.normalize slices = .ok l ∧ SliceConfig.ofWire l = .ofWire list
  /-- Where it is in force, polls that bring it are not seen on the board. -/
  polled : ∀ base backoff arrivals, (∀ l ∈ Polling.listsBrought arrivals, l = list) →
    ((Polling.Session.ofStore base backoff (.ofWire list)).behind arrivals).board =
      .ofStore (.ofWire list)
  /-- Nor are snapshots as which it is streamed. -/
  streamed : (∀ e ∈ list, e.slices ≠ []) → ∀ sub script period turns,
    (∀ s ∈ SliceStream.ServiceScript.brings script,
      SliceStream.Streamed (WireEntry.flatten list) s.slices) →
      ((SliceStream.Play.ofScript sub (.ofWire list) script period).after turns).board =
        .ofStore (.ofWire list)

/-- A list means the same in the settings, in the body of a poll and as slices of a snapshot, and
where it is in force none of them is seen. -/
theorem sourcesAgree (list : List WireEntry) : SourcesAgree list where
  initial _ := Settings.initial_eq_ofWire
  settings _ _ _ parsed holds accepted := Settings.initial_of_parse parsed holds accepted
  accepted := by
    intro text d nrfUri webuiUri parsed sets nrf webui
    have accepted := Settings.parse_eq_ofList parsed sets nrf webui
    exact ⟨_, accepted, Settings.initial_of_parse parsed sets.holdsList accepted⟩
  answer _ := Polling.brings_of_text
  slices full _ streamed := ⟨_, streamed.normalize_eq, WireEntry.ofWire_map_single full⟩
  polled base backoff arrivals same := by
    refine Polling.Session.board_behind base backoff fun l mem => ?_
    rw [same l mem]
  streamed full sub script period turns streamed := by
    refine SliceStream.Play.board_after turns fun s mem l normal => ?_
    rw [(streamed s mem).normalize_eq] at normal
    rw [← Except.ok.inj normal]
    exact WireEntry.ofWire_map_single full

/-- One network with two slices. -/
def twoSlices : List WireEntry := [⟨⟨"208", "93"⟩, [⟨1, some "010203"⟩, ⟨2, none⟩]⟩]

/-- Settings that write it down, with plain names and quoted texts. -/
def twoSlicesText : String :=
  "info:\n  version: 1.0.0\nconfiguration:\n  nrfUri: http://nrf\n  webuiUri: http://webui\n" ++
  "  supportedPlmnList:\n    - \x7b mcc: \"208\", mnc: \"93\" \x7d\n" ++
  "  supportedNssaiInPlmnList:\n    - plmnId: \x7b mnc: '93', mcc: \"208\" \x7d\n" ++
  "      supportedSnssaiList: [\x7b sst: 1, sd: \"010203\" \x7d, \x7b sst: 2 \x7d]\n"

/-- The settings start on what the two slices describe that are streamed behind a third without a
site. -/
theorem sourcesAgree_twoSlices :
    (∃ s, Settings.parse twoSlicesText = .ok s ∧ s.initial = .ofWire twoSlices) ∧
    ∃ l, SliceStream.normalize
        [⟨"", some ⟨"x", ""⟩, none⟩,
          ⟨"a", some ⟨"1", "010203"⟩, some ⟨"", some ⟨"208", "93"⟩⟩⟩,
          ⟨"b", some ⟨"2", ""⟩, some ⟨"", some ⟨"208", "93"⟩⟩⟩] = .ok l ∧
      SliceConfig.ofWire l = .ofWire twoSlices := by
  have agree := sourcesAgree twoSlices
  constructor
  · obtain ⟨d, read, sets⟩ : ∃ d ∈ (Yaml.Document.parse twoSlicesText).toOption,
        Settings.SetsList "http://nrf" "http://webui" twoSlices d.root := by decide +kernel
    have parsed : Yaml.Document.parse twoSlicesText = .ok d := by
      cases result : Yaml.Document.parse twoSlicesText with
      | error fault => simp [result, Except.toOption] at read
      | ok found => simpa [result, Except.toOption] using read
    exact agree.accepted twoSlicesText d _ _ parsed sets (by decide) (by decide)
  · exact agree.slices (by simp [twoSlices]) _
      (.useless (.inr rfl) (.slice "a" "" (.slice "b" "" .done)))

end SliceSelection
