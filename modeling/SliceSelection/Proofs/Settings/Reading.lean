import Mathlib.Tactic.Common
import SliceSelection.Proofs.Ingest.Coherence
import SliceSelection.Settings.Document

/-!
# Lists in the settings

How a list is written down in the settings: its networks in one field of the configuration and its
entries in another. Every name and every text may be written in a style of its own, and the fields
of a record stand in any order. Whatever else the settings say, settings that are accepted start on
what the list describes; and they are accepted if only what has to be set is set besides.
-/

namespace SliceSelection

open Yaml

variable {α : Type} {d : Document} {n : Node}

namespace Yaml

lemma Reading.bind_eq_some_iff {β : Type} {first : Reading α} {next : α → Reading β} {k : Nat}
    {r : β × Nat} :
    (first >>= next) k = some r ↔ ∃ a k', first k = some (a, k') ∧ next a k' = some r := by
  have bind : (first >>= next) k = (first k).bind fun x => next x.1 x.2 := rfl
  rw [bind, Option.bind_eq_some_iff, Prod.exists]

lemma Reading.eq_of_pure {a b : α} {k k' : Nat} (read : (pure a : Reading α) k = some (b, k')) :
    a = b :=
  (Prod.mk.inj (Option.some.inj read)).1

/-! ### Nodes as they are written -/

namespace Node

variable {n : Node} {name : String} {P : Node → Prop}

/-- The text of a scalar in whatever style. -/
def text? : Node → Option String
  | .scalar _ _ s => some s
  | _ => none

/-- The text of a scalar that is written plain. -/
def plain? : Node → Option String
  | .scalar _ .plain s => some s
  | _ => none

/-- Whether a scalar that is not empty can be taken for nothing where a value may be absent. -/
def maySayNull : Node → Bool
  | .scalar p .plain s => p.tag.isSome || saysNull s
  | _ => false

def items? : Node → Option (List Node)
  | .sequence _ items => some items
  | _ => none

def entries : Node → List (Node × Node)
  | .mapping _ entries => entries
  | _ => []

/-- The names in a record, each in whatever style. -/
def names? : Node → Option (List String)
  | .mapping _ entries => entries.mapM (·.1.text?)
  | _ => none

/-- A record has fields of these names and no others, in whatever order. -/
def HasNames (n : Node) (names : List String) : Prop := ∃ given ∈ n.names?, given.Perm names

instance (names : List String) : Decidable (n.HasNames names) :=
  inferInstanceAs (Decidable (∃ given ∈ n.names?, given.Perm names))

/-- A record has a field of this name, with such a value. -/
def HasField (n : Node) (name : String) (P : Node → Prop) : Prop :=
  ∃ e ∈ n.entries, e.1.text? = some name ∧ P e.2

instance [DecidablePred P] : Decidable (n.HasField name P) :=
  inferInstanceAs (Decidable (∃ e ∈ n.entries, e.1.text? = some name ∧ P e.2))

/-- A list writes values down, one in each item. -/
def Lists (n : Node) (written : α → Node → Prop) (values : List α) : Prop :=
  ∃ items ∈ n.items?, List.Forall₂ written values items

instance (written : α → Node → Prop) [∀ x, DecidablePred (written x)] (values : List α) :
    Decidable (n.Lists written values) :=
  inferInstanceAs (Decidable (∃ items ∈ n.items?, List.Forall₂ written values items))

lemma text?_eq_some_iff {s : String} :
    n.text? = some s ↔ ∃ p style, n = .scalar p style s := by
  cases n <;> simp [text?]

lemma plain?_eq_some_iff {s : String} : n.plain? = some s ↔ ∃ p, n = .scalar p .plain s := by
  unfold plain?
  split <;> simp_all

lemma items?_eq_some_iff {items : List Node} :
    n.items? = some items ↔ ∃ p, n = .sequence p items := by
  cases n <;> simp [items?]

lemma names?_eq_some_iff {names : List String} :
    n.names? = some names ↔
      ∃ p entries, n = .mapping p entries ∧ entries.mapM (·.1.text?) = some names := by
  cases n <;> simp [names?]

end Node

namespace Document

variable {known names : List String} {fs : Fields} {name : String} {k k' : Nat}

lemma text_eq {s : String} (isText : n.text? = some s) : d.text n = pure s := by
  obtain ⟨p, style, rfl⟩ := Node.text?_eq_some_iff.mp isText
  rfl

/-! ### Records -/

lemma lookup_of_collect {entries : List (Node × Node)} {e : Node × Node}
    (read : d.collect known entries k = some (fs, k')) (mem : e ∈ entries)
    (key : e.1.text? = some name) (among : name ∈ known) : fs.lookup name = some e.2 := by
  induction entries generalizing fs k k' with
  | nil => cases mem
  | cons first entries ih =>
    rw [collect, Reading.bind_eq_some_iff] at read
    obtain ⟨text, _, isKey, read⟩ := read
    obtain ⟨rest, _, isRest, read⟩ := Reading.bind_eq_some_iff.mp read
    rcases List.mem_cons.mp mem with rfl | later
    · rw [text_eq key] at isKey
      obtain rfl : name = text := Reading.eq_of_pure isKey
      rw [if_pos (by simpa using among)] at read
      split at read
      · cases read
      · rw [← Reading.eq_of_pure read]
        simp
    · have found := ih isRest later
      split at read
      · split at read
        · cases read
        next fresh =>
          have other : name ≠ text := by
            rintro rfl
            obtain ⟨l, l', rfl, -⟩ := List.lookup_eq_some_iff.mp found
            simp at fresh
          rw [← Reading.eq_of_pure read, List.lookup_cons, beq_eq_false_iff_ne.mpr other]
          exact found
      · rw [← Reading.eq_of_pure read]
        exact found

lemma lookup_of_fields {P : Node → Prop} (read : d.fields known n k = some (fs, k'))
    (field : n.HasField name P) (among : name ∈ known) :
    ∃ v, fs.lookup name = some v ∧ P v := by
  obtain ⟨e, mem, key, holds⟩ := field
  unfold Node.entries at mem
  split at mem
  · exact ⟨e.2, lookup_of_collect read mem key among, holds⟩
  · cases mem

/-- Entries whose names are known and differ are all taken. -/
lemma exists_collect {entries : List (Node × Node)}
    (given : entries.mapM (·.1.text?) = some names) (nodup : names.Nodup)
    (among : ∀ s ∈ names, s ∈ known) :
    ∃ fs, d.collect known entries = pure fs ∧ fs.map (·.1) = names := by
  induction entries generalizing names with
  | nil =>
    cases given
    exact ⟨[], rfl, rfl⟩
  | cons e entries ih =>
    simp only [List.mapM_cons, Option.bind_eq_bind, Option.bind_eq_some_iff,
      Option.pure_def] at given
    obtain ⟨name, key, rest, others, same⟩ := given
    cases same
    rw [List.nodup_cons] at nodup
    rw [List.forall_mem_cons] at among
    obtain ⟨fs, read, taken⟩ := ih others nodup.2 among.2
    have fresh : fs.any (·.1 == name) = false := by
      rw [List.any_eq_false]
      intro f mem same
      rw [← taken] at nodup
      exact nodup.1 (eq_of_beq same ▸ List.mem_map_of_mem mem)
    refine ⟨(name, e.2) :: fs, ?_, by simp [taken]⟩
    rw [collect, text_eq key, pure_bind, read, pure_bind]
    simp [among.1, fresh]

/-- A record with names that are known is read, and no other field is given. -/
lemma exists_fields (named : n.HasNames names) (nodup : names.Nodup)
    (among : ∀ s ∈ names, s ∈ known) :
    ∃ fs, d.fields known n = pure fs ∧ ∀ name ∉ names, fs.lookup name = none := by
  obtain ⟨given, isGiven, order⟩ := named
  obtain ⟨p, entries, rfl, isGiven⟩ := Node.names?_eq_some_iff.mp isGiven
  have known : ∀ s ∈ given, s ∈ known := by
    intro s mem
    exact among s (order.mem_iff.mp mem)
  obtain ⟨fs, read, taken⟩ := exists_collect isGiven (order.nodup_iff.mpr nodup) known
  refine ⟨fs, read, ?_⟩
  intro name absent
  rw [List.lookup_eq_none_iff]
  intro f mem
  have other : name ≠ f.1 := by
    rintro rfl
    exact absent (order.mem_iff.mp (taken ▸ List.mem_map_of_mem mem))
  simpa using other

lemma Fields.required_eq {v : Node} {read : Node → Reading α} (found : fs.lookup name = some v) :
    fs.required name read = read v := by
  rw [required, found]

lemma Fields.defaulting_of_none {default : α} {read : Node → Reading α}
    (absent : fs.lookup name = none) : fs.defaulting name default read = pure default := by
  rw [defaulting, absent]

section Given

variable {P : Node → Prop} {x default : α} {reader : Node → Reading α}

lemma Fields.required_of_hasField (read : d.fields known n k = some (fs, k'))
    (field : n.HasField name P) (among : name ∈ known) (back : ∀ v, P v → reader v = pure x) :
    fs.required name reader = pure x := by
  obtain ⟨v, found, holds⟩ := lookup_of_fields read field among
  rw [required, found, ← back v holds]

lemma Fields.defaulting_of_hasField (read : d.fields known n k = some (fs, k'))
    (field : n.HasField name P) (among : name ∈ known) (back : ∀ v, P v → reader v = pure x) :
    fs.defaulting name default reader = pure x := by
  obtain ⟨v, found, holds⟩ := lookup_of_fields read field among
  rw [defaulting, found, ← back v holds]

end Given

/-! ### Values -/

lemma list_eq {β : Type} {read : Node → Reading β} {written : α → Node → Prop} {value : α → β}
    (back : ∀ x v, written x v → read v = pure (value x)) {l : List α}
    (lists : n.Lists written l) : d.list read n = pure (l.map value) := by
  obtain ⟨items, isList, each⟩ := lists
  obtain ⟨p, rfl⟩ := Node.items?_eq_some_iff.mp isList
  have all : d.list read (.sequence p items) = items.mapM read := rfl
  rw [all]
  clear all isList
  induction each with
  | nil => rfl
  | cons first _ ih => rw [List.mapM_cons, back _ _ first, ih, pure_bind, pure_bind]; rfl

lemma optional_text_eq {s : String} (isText : n.text? = some s) (given : n.maySayNull = false)
    (nonempty : s ≠ "") : d.optional d.text n = pure (some s) := by
  obtain ⟨⟨anchor, tag⟩, style, rfl⟩ := Node.text?_eq_some_iff.mp isText
  cases style with
  | plain =>
    simp only [Node.maySayNull, Bool.or_eq_false_iff, Option.isSome_eq_false_iff,
      Option.isNone_iff_eq_none] at given
    obtain ⟨rfl, notNull⟩ := given
    simp [optional, resolve, text, nonempty, notNull]
  | singleQuoted | doubleQuoted | literal | folded => rfl

lemma natural?_toString : ∀ n < 256, natural? (toString n) = some n := by
  decide +kernel

lemma unsigned_eq {m : Nat} (lt : m < 256) (isText : n.plain? = some (toString m)) :
    d.unsigned 255 n = pure m := by
  have read : d.plainText intTag n = pure (toString m) := by
    obtain ⟨p, rfl⟩ := Node.plain?_eq_some_iff.mp isText
    rfl
  rw [unsigned, read, pure_bind, natural?_toString m lt]
  have le : decide (m ≤ 255) = true := decide_eq_true (Nat.le_of_lt_succ lt)
  rw [Option.filter_some, if_pos le]
  rfl

end Document

end Yaml

/-! ### The list in a document -/

def PlmnId.WrittenAs (p : PlmnId) (n : Node) : Prop :=
  n.HasNames ["mcc", "mnc"] ∧ n.HasField "mcc" (·.text? = some p.mcc) ∧
    n.HasField "mnc" (·.text? = some p.mnc)

/-- An absent differentiator is left out. -/
def WireSnssai.WrittenAs (s : WireSnssai) (n : Node) : Prop :=
  n.HasNames ("sst" :: (s.sd.map fun _ => "sd").toList) ∧
    n.HasField "sst" (·.plain? = some (toString s.sst.toNat)) ∧
    ∀ sd ∈ s.sd, n.HasField "sd" (·.text? = some sd)

instance (p : PlmnId) : DecidablePred p.WrittenAs :=
  fun _ => inferInstanceAs (Decidable (_ ∧ _ ∧ _))

instance (s : WireSnssai) : DecidablePred s.WrittenAs :=
  fun _ => inferInstanceAs (Decidable (_ ∧ _ ∧ _))

def WireEntry.WrittenAs (e : WireEntry) (n : Node) : Prop :=
  n.HasNames ["plmnId", "supportedSnssaiList"] ∧ n.HasField "plmnId" e.plmnId.WrittenAs ∧
    n.HasField "supportedSnssaiList" (·.Lists WireSnssai.WrittenAs e.slices)

instance (e : WireEntry) : DecidablePred e.WrittenAs :=
  fun _ => inferInstanceAs (Decidable (_ ∧ _ ∧ _))

namespace Settings

open Document Fields

lemma readPlmn_eq (p : PlmnId) (n : Node) (written : p.WrittenAs n) :
    readPlmn d n = pure p := by
  obtain ⟨named, mcc, mnc⟩ := written
  obtain ⟨fs, read, -⟩ := exists_fields named (by simp) (fun _ => id)
  rw [readPlmn, read, pure_bind,
    required_of_hasField (congrFun read 0) mcc (by simp) (fun _ => text_eq), pure_bind,
    required_of_hasField (congrFun read 0) mnc (by simp) (fun _ => text_eq), pure_bind]

lemma readSnssai_eq (s : WireSnssai) (n : Node) (written : s.WrittenAs n) :
    readSnssai d n = pure s.toSnssai := by
  obtain ⟨sst, sd⟩ := s
  obtain ⟨named, hasSst, hasSd⟩ := written
  obtain ⟨fs, read, absent⟩ := @exists_fields d n ["sst", "sd"] _ named
    (by cases sd <;> simp) (by cases sd <;> simp)
  have back : UInt8.ofNat sst.toNat = sst := UInt8.ofNat_toNat
  rw [readSnssai, read, pure_bind, required_of_hasField (congrFun read 0) hasSst (by simp)
    (fun _ => unsigned_eq sst.toNat_lt), pure_bind, back]
  cases sd with
  | none =>
    rw [defaulting_of_none (absent "sd" (by simp)), pure_bind]
    rfl
  | some sd =>
    rw [defaulting_of_hasField (congrFun read 0) (hasSd sd rfl) (by simp) (fun _ => text_eq),
      pure_bind]
    rfl

lemma readSlices_eq (e : WireEntry) (n : Node) (written : e.WrittenAs n) :
    readSlices d n = pure (e.plmnId, e.slices.map (·.toSnssai)) := by
  obtain ⟨named, plmn, slices⟩ := written
  obtain ⟨fs, read, -⟩ := exists_fields named (by simp) (fun _ => id)
  rw [readSlices, read, pure_bind,
    required_of_hasField (congrFun read 0) plmn (by simp) (readPlmn_eq _), pure_bind,
    defaulting_of_hasField (congrFun read 0) slices (by simp) (fun _ => list_eq readSnssai_eq),
    pure_bind]

variable {list : List WireEntry} {s : Settings}

/-- The networks and the entries of a list are written down in two fields. -/
def ListsIn (list : List WireEntry) (configuration : Node) : Prop :=
  configuration.HasField "supportedPlmnList" (·.Lists PlmnId.WrittenAs (list.map (·.plmnId))) ∧
    configuration.HasField "supportedNssaiInPlmnList" (·.Lists WireEntry.WrittenAs list)

instance : DecidablePred (ListsIn list) := fun _ => inferInstanceAs (Decidable (_ ∧ _))

/-- The configuration in a settings document writes a list down. -/
def HoldsList (list : List WireEntry) (root : Node) : Prop :=
  root.HasField "configuration" (ListsIn list)

lemma list_plmns (lists : n.Lists PlmnId.WrittenAs (list.map (·.plmnId))) :
    d.list (readPlmn d) n = pure (list.map (·.plmnId)) := by
  rw [list_eq readPlmn_eq lists, List.map_id']

lemma lists_of_readSettings {k k' : Nat} (holds : HoldsList list n)
    (read : readSettings d n k = some (s, k')) :
    s.plmns = list.map (·.plmnId) ∧
      s.slices = list.map fun e => (e.plmnId, e.slices.map (·.toSnssai)) := by
  -- Of all that is read only the configuration and its two fields matter.
  obtain ⟨top, _, isTop, read⟩ := Reading.bind_eq_some_iff.mp read
  obtain ⟨_, _, -, read⟩ := Reading.bind_eq_some_iff.mp read
  obtain ⟨fs, _, isConfiguration, read⟩ := Reading.bind_eq_some_iff.mp read
  iterate 11 obtain ⟨_, _, -, read⟩ := Reading.bind_eq_some_iff.mp read
  obtain ⟨plmns, _, isPlmns, read⟩ := Reading.bind_eq_some_iff.mp read
  obtain ⟨slices, _, isSlices, read⟩ := Reading.bind_eq_some_iff.mp read
  obtain ⟨_, _, -, made⟩ := Reading.bind_eq_some_iff.mp read
  obtain ⟨configuration, found, plmnsGiven, slicesGiven⟩ := lookup_of_fields isTop holds (by simp)
  rw [required, found] at isConfiguration
  rw [defaulting_of_hasField isConfiguration plmnsGiven (by simp [configurationFields])
    (fun _ => list_plmns)] at isPlmns
  rw [defaulting_of_hasField isConfiguration slicesGiven (by simp [configurationFields])
    (fun _ => list_eq readSlices_eq)] at isSlices
  rw [← Reading.eq_of_pure made, ← Reading.eq_of_pure isPlmns, ← Reading.eq_of_pure isSlices]
  exact ⟨rfl, rfl⟩

lemma initial_eq_ofWire (plmns : s.plmns = list.map (·.plmnId))
    (slices : s.slices = list.map fun e => (e.plmnId, e.slices.map (·.toSnssai))) :
    s.initial = .ofWire list := by
  rw [initial, plmns, slices]
  rfl

lemma initial_of_parse {text : String} (parsed : Document.parse text = .ok d)
    (holds : HoldsList list d.root) (accepted : parse text = .ok s) :
    s.initial = .ofWire list := by
  unfold parse at accepted
  rw [parsed] at accepted
  cases read : d.read? (readSettings d) with
  | none => simp [read] at accepted
  | some t =>
    simp only [read] at accepted
    obtain ⟨-, rfl⟩ := objection_of_check accepted
    obtain ⟨⟨_, k⟩, whole, rfl⟩ := Option.map_eq_some_iff.mp read
    obtain ⟨plmns, slices⟩ := lists_of_readSettings holds whole
    exact initial_eq_ofWire plmns slices

/-- Settings of which only the two addresses and a list are given. -/
def ofList (nrfUri webuiUri : String) (list : List WireEntry) : Settings where
  version := expectedVersion
  description := none
  name := none
  interface := defaultInterface
  services := []
  nrfUri := nrfUri
  webuiUri := some webuiUri
  streams := false
  streamUri := none
  heartbeat := none
  polling := defaultPolling
  plmns := list.map (·.plmnId)
  slices := list.map fun e => (e.plmnId, e.slices.map (·.toSnssai))
  logLevel := none

/-- A document in which nothing is set but the version, the two addresses and a list. -/
def SetsList (nrfUri webuiUri : String) (list : List WireEntry) (root : Node) : Prop :=
  root.HasNames ["info", "configuration"] ∧
    root.HasField "info" (fun info =>
      info.HasNames ["version"] ∧ info.HasField "version" (·.text? = some expectedVersion)) ∧
    root.HasField "configuration" fun configuration =>
      configuration.HasNames
          ["nrfUri", "webuiUri", "supportedPlmnList", "supportedNssaiInPlmnList"] ∧
        configuration.HasField "nrfUri" (·.text? = some nrfUri) ∧
        configuration.HasField "webuiUri" (fun webui =>
          webui.text? = some webuiUri ∧ webui.maySayNull = false) ∧
        ListsIn list configuration

instance (nrfUri webuiUri : String) (list : List WireEntry) :
    DecidablePred (SetsList nrfUri webuiUri list) :=
  fun _ => inferInstanceAs (Decidable (_ ∧ _ ∧ _))

variable {nrfUri webuiUri : String}

lemma SetsList.holdsList (sets : SetsList nrfUri webuiUri list n) : HoldsList list n := by
  obtain ⟨-, -, e, mem, key, -, -, -, lists⟩ := sets
  exact ⟨e, mem, key, lists⟩

lemma SetsList.readSettings_eq (sets : SetsList nrfUri webuiUri list n) (webui : webuiUri ≠ "") :
    readSettings d n = pure (ofList nrfUri webuiUri list) := by
  obtain ⟨named, infoGiven, configurationGiven⟩ := sets
  obtain ⟨top, isTop, topAbsent⟩ := @exists_fields d n
    ["info", "configuration", "logger"] _ named (by simp) (by simp)
  obtain ⟨info, infoFound, infoNamed, versionGiven⟩ :=
    lookup_of_fields (congrFun isTop 0) infoGiven (by simp)
  obtain ⟨is, isInfo, infoAbsent⟩ := @exists_fields d info
    ["version", "description"] _ infoNamed (by simp) (by simp)
  obtain ⟨configuration, found, named, nrfGiven, webuiGiven, plmnsGiven, slicesGiven⟩ :=
    lookup_of_fields (congrFun isTop 0) configurationGiven (by simp)
  obtain ⟨fs, isConfiguration, absent⟩ := @exists_fields d configuration
    configurationFields _ named (by simp) (by simp [configurationFields])
  have infoRead : top.required "info" (d.fields ["version", "description"]) = pure is := by
    rw [required_eq infoFound, isInfo]
  have configurationRead :
      top.required "configuration" (d.fields configurationFields) = pure fs := by
    rw [required_eq found, isConfiguration]
  have version : is.required "version" d.text = pure expectedVersion :=
    required_of_hasField (congrFun isInfo 0) versionGiven (by simp) (fun _ => text_eq)
  have nrf : fs.defaulting "nrfUri" "" d.text = pure nrfUri :=
    defaulting_of_hasField (congrFun isConfiguration 0) nrfGiven (by simp [configurationFields])
      (fun _ => text_eq)
  have webui : fs.defaulting "webuiUri" none (d.optional d.text) = pure (some webuiUri) :=
    defaulting_of_hasField (congrFun isConfiguration 0) webuiGiven (by simp [configurationFields])
      (fun _ given => optional_text_eq given.1 given.2 webui)
  have plmns : fs.defaulting "supportedPlmnList" [] (d.list (readPlmn d)) =
      pure (list.map (·.plmnId)) :=
    defaulting_of_hasField (congrFun isConfiguration 0) plmnsGiven (by simp [configurationFields])
      (fun _ => list_plmns)
  have slices : fs.defaulting "supportedNssaiInPlmnList" [] (d.list (readSlices d)) =
      pure (list.map fun e => (e.plmnId, e.slices.map (·.toSnssai))) :=
    defaulting_of_hasField (congrFun isConfiguration 0) slicesGiven (by simp [configurationFields])
      (fun _ => list_eq readSlices_eq)
  simp [readSettings, isTop, infoRead, configurationRead, version, nrf, webui, plmns, slices,
    defaulting_of_none, topAbsent, infoAbsent, absent]
  rfl

lemma check_ofList (nrf : nrfUri ≠ "") (webui : webuiUri ≠ "") :
    (ofList nrfUri webuiUri list).check = .ok (ofList nrfUri webuiUri list) := by
  have listed : (ofList nrfUri webuiUri list).slices.find?
      (fun e => !(ofList nrfUri webuiUri list).plmns.contains e.1) = none := by
    simp only [ofList, List.find?_eq_none, List.forall_mem_map]
    intro e mem
    simpa using ⟨e, mem, rfl⟩
  have fine : (ofList nrfUri webuiUri list).objection = none := by
    rw [objection, listed]
    simp [ofList, defaultPolling, nrf, webui]
  rw [check, fine]
  rfl

/-- A text with such a document is accepted unless an address is empty. -/
lemma parse_eq_ofList {text : String} (parsed : Document.parse text = .ok d)
    (sets : SetsList nrfUri webuiUri list d.root) (nrf : nrfUri ≠ "") (webui : webuiUri ≠ "") :
    parse text = .ok (ofList nrfUri webuiUri list) := by
  have read : d.read? (readSettings d) = some (ofList nrfUri webuiUri list) := by
    rw [Document.read?, sets.readSettings_eq webui]
    rfl
  rw [parse, parsed]
  simp only [read]
  exact check_ofList nrf webui

end Settings

end SliceSelection
