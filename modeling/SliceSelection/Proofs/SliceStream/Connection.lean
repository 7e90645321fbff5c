import SliceSelection.Proofs.SliceStream.Play

/-!
# The connection of the watcher

What a watcher holds can be told from what it asked: a connection is held from the moment it is made
until it was not ready three times in a row, and what is counted are the times behind its last ready
answer. Subscriptions and streams have no part in it, however they fail. A step lemma shows this for
what a single turn asks, and induction on the turns for every play.
-/

namespace SliceSelection.SliceStream

/-! ### What was asked -/

/-- The probe that was noted down. -/
def Note.probe? : Note → Option Probe
  | probe p => some p
  | item _ => none

/-- What was asked in a rehearsal, the last first. -/
def Rehearsal.probes (r : Rehearsal) : List Probe := r.notes.filterMap (·.2.probe?)

/-- What the connection answered that was made last, its last answer first. -/
def lastConnection? : List Probe → Option (List Bool)
  | [] => none
  | .connect true :: _ => some []
  | .ready ok :: earlier => (lastConnection? earlier).map (ok :: ·)
  | .connect false :: earlier | .subscribe _ _ :: earlier => lastConnection? earlier

/-- The number of times a connection was not ready since it last was. -/
def failing (answers : List Bool) : Nat := (answers.takeWhile not).length

/-- The last answers of a connection were that it is not ready, as many as it takes to give it
up. -/
def IsLost (answers : List Bool) : Prop := List.replicate notReadyLimit false <+: answers

lemma replicate_prefix_iff {n : Nat} {answers : List Bool} :
    List.replicate n false <+: answers ↔ n ≤ failing answers := by
  induction n generalizing answers with
  | zero => simp
  | succ n ih =>
    cases answers with
    | nil => simp [List.replicate_succ, failing]
    | cons ok answers => cases ok <;> simp [List.replicate_succ, failing, ih]

lemma isLost_iff {answers : List Bool} : IsLost answers ↔ notReadyLimit ≤ failing answers :=
  replicate_prefix_iff

lemma failing_cons_false (answers : List Bool) : failing (false :: answers) = failing answers + 1 :=
  rfl

/-! ### Ticks -/

section Agrees

variable {w w' : Watcher} {c : Conditions} {probes asked : List Probe}

/-- What a watcher holds agrees with what it asked, the last first. -/
inductive Watcher.Agrees (w : Watcher) (asked : List Probe) : Prop where
  | held {answers : List Bool} (connected : w.connected = true)
      (own : lastConnection? asked = some answers) (counted : w.notReady = failing answers)
      (kept : failing answers < notReadyLimit)
  | none (unconnected : w.connected = false) (unsubscribed : w.subscribed = false)
      (uncounted : w.notReady = 0)
      (lost : ∀ answers, lastConnection? asked = some answers → notReadyLimit ≤ failing answers)

lemma Watcher.Probed.agrees {answers : List Bool} (probed : w.Probed c w' probes)
    (connected : w.connected = true) (unsubscribed : w.subscribed = false)
    (own : lastConnection? asked = some answers) (counted : w.notReady = failing answers) :
    w'.Agrees (probes.reverse ++ asked) := by
  cases probed with
  | ready =>
    have own : lastConnection? (.ready true :: asked) = some (true :: answers) := by
      rw [lastConnection?, own]
      rfl
    have kept : failing (true :: answers) < notReadyLimit := Nat.zero_lt_succ _
    exact .held connected own rfl kept
  | unready _ few =>
    have own : lastConnection? (.ready false :: asked) = some (false :: answers) := by
      rw [lastConnection?, own]
      rfl
    rw [counted] at few
    exact .held connected own (congrArg (· + 1) counted) few
  | lost _ many =>
    refine .none rfl unsubscribed rfl fun answers' own' => ?_
    have own : lastConnection? (.ready false :: asked) = some (false :: answers) := by
      rw [lastConnection?, own]
      rfl
    cases own.symm.trans own'
    rwa [failing_cons_false, ← counted]

lemma Watcher.Ticked.agrees (ticked : w.Ticked c w' probes) (agrees : w.Agrees asked)
    (unsubscribed : w.subscribed = false) : w'.Agrees (probes.reverse ++ asked) := by
  cases ticked with
  | held connected probed =>
    cases agrees with
    | held _ own counted => exact probed.agrees connected unsubscribed own counted
    | none unconnected => cases connected.symm.trans unconnected
  | made _ probed =>
    -- The new connection has answered nothing yet, whatever the last one did.
    rw [List.reverse_cons, List.append_assoc]
    exact probed.agrees rfl unsubscribed rfl rfl
  | refused unconnected =>
    cases agrees with
    | held connected => cases connected.symm.trans unconnected
    | none _ unsubscribed uncounted lost => exact .none unconnected unsubscribed uncounted lost

/-! What a tick changes shows in what it asks. -/

section Ticked

variable {sub : Subscription} {ok : Bool}

lemma Watcher.Ticked.of_connect (ticked : w.Ticked c w' probes) (asks : .connect ok ∈ probes) :
    w.connected = false := by
  cases ticked with
  | held _ probed => cases probed <;> simp at asks
  | made unconnected | refused unconnected => exact unconnected

lemma Watcher.Ticked.of_subscribe (ticked : w.Ticked c w' probes)
    (asks : .subscribe sub ok ∈ probes) :
    ∃ earlier, probes = earlier ++ [.ready true, .subscribe sub ok] := by
  cases ticked with
  | held _ probed =>
    cases probed with
    | ready =>
      obtain ⟨rfl, rfl⟩ : sub = w.subscription ∧ ok = c.streams := by simpa using asks
      exact ⟨[], rfl⟩
    | unready | lost => simp at asks
  | made _ probed =>
    cases probed with
    | ready =>
      obtain ⟨rfl, rfl⟩ : sub = w.subscription ∧ ok = c.streams := by simpa using asks
      exact ⟨[.connect true], rfl⟩
    | unready | lost => simp at asks
  | refused => simp at asks

/-- A connection that was just made is not given up at once. -/
lemma Watcher.Ticked.made_iff (ticked : w.Ticked c w' probes) :
    w.connected = false ∧ w'.connected = true ↔ .connect true ∈ probes := by
  cases ticked with
  | held connected probed => cases probed <;> simp [connected]
  | made unconnected probed =>
    cases probed with
    | ready | unready => simp [unconnected]
    | lost _ many =>
      have many : notReadyLimit ≤ 0 + 1 := many
      exact absurd many (by decide)
  | refused unconnected => simp [unconnected]

lemma Watcher.Ticked.opened_iff (ticked : w.Ticked c w' probes)
    (unsubscribed : w.subscribed = false) :
    w'.subscribed = true ↔ ∃ sub, .subscribe sub true ∈ probes := by
  cases ticked with
  | held _ probed | made _ probed => cases probed <;> simp [unsubscribed]
  | refused => simp [unsubscribed]

lemma Watcher.Ticked.of_discards (ticked : w.Ticked c w' probes) (connected : w.connected = true)
    (discards : w'.connected = false) : probes = [.ready false] := by
  cases ticked with
  | held _ probed =>
    cases probed with
    | ready | unready => cases connected.symm.trans discards
    | lost => rfl
  | made unconnected | refused unconnected => cases connected.symm.trans unconnected

end Ticked

end Agrees

/-! ### Turns -/

namespace Play

variable {x y : Play} {t : Turn}

def watcher (x : Play) : Watcher := x.rehearsal.watcher

/-- What was asked in a play, the last first. -/
def probes (x : Play) : List Probe := x.rehearsal.probes

/-- What a turn asks. -/
def asked (x : Play) (t : Turn) : List Probe :=
  ((x.step t).probes.take ((x.step t).probes.length - x.probes.length)).reverse

lemma asked_eq {probes : List Probe} (noted : (x.step t).probes = probes.reverse ++ x.probes) :
    x.asked t = probes := by
  rw [asked, noted, List.length_append, Nat.add_sub_cancel, List.take_left, List.reverse_reverse]

/-- What a turn does to the connection: it ticks, or it leaves the connection alone. A stream may
end that way, but none begins. -/
inductive Tends (x y : Play) : Prop where
  | aside (connected : y.watcher.connected = x.watcher.connected)
      (notReady : y.watcher.notReady = x.watcher.notReady)
      (subscribed : y.watcher.subscribed = true → x.watcher.subscribed = true)
      (probes : y.probes = x.probes)
  | tick {c : Conditions} (probes : List Probe) (unsubscribed : x.watcher.subscribed = false)
      (ticked : x.watcher.Ticked c y.watcher probes)
      (notes : y.rehearsal.notes =
        (probes.map fun p => (x.rehearsal.now, Note.probe p)).reverse ++ x.rehearsal.notes)

lemma tends (x : Play) (t : Turn) : x.Tends (x.step t) := by
  cases t with
  | wait | cancel | read => exact .aside rfl rfl id rfl
  | move =>
    cases x.rehearsal.moves with
    | nothing due =>
      rw [step, due]
      exact .aside rfl rfl id rfl
    | tick unsubscribed next due =>
      rw [step, due]
      obtain ⟨w, probes, ticked⟩ : ∃ w probes,
        x.watcher.tick x.rehearsal.script.conditions = (w, probes) := ⟨_, _, rfl⟩
      have tick := Rehearsal.tick_eq (r := { x.rehearsal with tickDue := next }) ticked
      refine .tick probes unsubscribed (Watcher.ticked (ticked.trans ?_)) ?_
      · simp [watcher, tick]
      · simp [tick]
    | item after i rest items subscribed due =>
      rw [step, due]
      cases i with
      | snapshot s =>
        have connected := congrArg Watcher.connected (x.session.watcher_take s)
        have notReady := congrArg Watcher.notReady (x.session.watcher_take s)
        exact .aside connected notReady (fun _ => subscribed) rfl
      | error | close => exact .aside rfl rfl (fun _ => subscribed) rfl

lemma probes_eq {probes : List Probe} (notes : y.rehearsal.notes =
    (probes.map fun p => (x.rehearsal.now, Note.probe p)).reverse ++ x.rehearsal.notes) :
    y.probes = probes.reverse ++ x.probes := by
  have noted : (probes.map fun p => (x.rehearsal.now, Note.probe p)).filterMap (·.2.probe?) =
      probes := by simp [Note.probe?]
  unfold Play.probes Rehearsal.probes
  rw [notes, List.filterMap_append, List.filterMap_reverse, noted]

lemma asked_append (x : Play) (t : Turn) :
    (x.step t).probes = (x.asked t).reverse ++ x.probes := by
  cases x.tends t with
  | aside _ _ _ probes =>
    have asked : x.asked t = [] := asked_eq probes
    rw [asked, probes]
    rfl
  | tick _ _ _ notes => rw [asked_eq (probes_eq notes), probes_eq notes]

lemma agrees_step (agrees : x.watcher.Agrees x.probes) (t : Turn) :
    (x.step t).watcher.Agrees (x.step t).probes := by
  cases x.tends t with
  | tick _ unsubscribed ticked notes =>
    rw [probes_eq notes]
    exact ticked.agrees agrees unsubscribed
  | aside connected notReady subscribed probes =>
    rw [probes]
    cases agrees with
    | held held own counted kept =>
      exact .held (connected.trans held) own (notReady.trans counted) kept
    | none unconnected unsubscribed uncounted lost =>
      have unsubscribed : (x.step t).watcher.subscribed = false := by
        rw [← Bool.not_eq_true] at unsubscribed ⊢
        exact mt subscribed unsubscribed
      exact .none (connected.trans unconnected) unsubscribed (notReady.trans uncounted) lost

lemma agrees_after (agrees : x.watcher.Agrees x.probes) (turns : List Turn) :
    (x.after turns).watcher.Agrees (x.after turns).probes := by
  induction turns generalizing x with
  | nil => exact agrees
  | cons t turns ih => exact ih (agrees_step agrees t)

/-- What a watcher holds between two steps. -/
structure Managed (x : Play) : Prop where
  streamed : x.watcher.subscribed = true → x.watcher.connected = true
  uncounted : x.watcher.connected = false → x.watcher.notReady = 0
  counted : x.watcher.connected = true → ∃ answers,
    lastConnection? x.probes = some answers ∧ x.watcher.notReady = failing answers
  below : x.watcher.notReady < notReadyLimit
  /-- The connection made last is held if it was not lost. -/
  held : x.watcher.connected = true ↔
    ∃ answers, lastConnection? x.probes = some answers ∧ ¬ IsLost answers

lemma managed (agrees : x.watcher.Agrees x.probes) : x.Managed := by
  cases agrees with
  | held connected own counted kept =>
    constructor
    case streamed => exact fun _ => connected
    case uncounted => exact fun unconnected => absurd (connected.symm.trans unconnected) (by simp)
    case counted => exact fun _ => ⟨_, own, counted⟩
    case below => rwa [counted]
    case held =>
      have kept := mt isLost_iff.mp (Nat.not_le_of_lt kept)
      exact ⟨fun _ => ⟨_, own, kept⟩, fun _ => connected⟩
  | none unconnected unsubscribed uncounted lost =>
    constructor
    case streamed => simp [unsubscribed]
    case uncounted => exact fun _ => uncounted
    case counted => simp [unconnected]
    case below =>
      rw [uncounted]
      decide
    case held =>
      rw [unconnected]
      refine ⟨fun held => (Bool.false_ne_true held).elim, fun ⟨answers, own, kept⟩ => ?_⟩
      exact absurd (isLost_iff.mpr (lost answers own)) kept

/-- How a turn manages connection and stream. -/
structure Manages (x : Play) (t : Turn) : Prop where
  asked : (x.step t).probes = (x.asked t).reverse ++ x.probes
  /-- A connection is given up when its last answers were that it is not ready, and not before. -/
  discards : x.watcher.connected = true → ((x.step t).watcher.connected = false ↔
    ∃ answers, lastConnection? (x.step t).probes = some answers ∧ IsLost answers)
  /-- The turn that gives it up brings nothing else: no subscription fails, and no stream ends. -/
  discarding : x.watcher.connected = true → (x.step t).watcher.connected = false →
    (x.step t).rehearsal.notes =
      (x.rehearsal.now, .probe (.ready false)) :: x.rehearsal.notes
  connects : ∀ ok, .connect ok ∈ x.asked t → x.watcher.connected = false
  makes : x.watcher.connected = false ∧ (x.step t).watcher.connected = true ↔
    .connect true ∈ x.asked t
  subscribes : ∀ sub ok, .subscribe sub ok ∈ x.asked t → x.watcher.subscribed = false ∧
    ∃ earlier, x.asked t = earlier ++ [.ready true, .subscribe sub ok]
  opens : x.watcher.subscribed = false ∧ (x.step t).watcher.subscribed = true ↔
    ∃ sub, .subscribe sub true ∈ x.asked t

/-- Once a connection was made, there is one that was made last. -/
lemma isSome_lastConnection?_append {earlier : List Probe} (some : (lastConnection? earlier).isSome)
    (probes : List Probe) : (lastConnection? (probes ++ earlier)).isSome := by
  induction probes with
  | nil => exact some
  | cons p probes ih =>
    rw [List.cons_append]
    rcases p with (_ | _) | _ | _ <;> simp [lastConnection?, ih]

lemma discards_iff (agrees : x.watcher.Agrees x.probes) (connected : x.watcher.connected = true)
    (t : Turn) : (x.step t).watcher.connected = false ↔
      ∃ answers, lastConnection? (x.step t).probes = some answers ∧ IsLost answers := by
  have held := (managed (agrees_step agrees t)).held
  constructor
  · intro discards
    obtain ⟨before, own, -⟩ := (managed agrees).counted connected
    have some : (lastConnection? (x.step t).probes).isSome := by
      rw [x.asked_append t]
      exact isSome_lastConnection?_append (Option.isSome_of_eq_some own) _
    obtain ⟨answers, own⟩ := Option.isSome_iff_exists.mp some
    refine ⟨answers, own, ?_⟩
    by_contra kept
    exact Bool.false_ne_true (discards.symm.trans (held.mpr ⟨answers, own, kept⟩))
  · rintro ⟨answers, own, lost⟩
    rw [← Bool.not_eq_true, held]
    rintro ⟨answers', own', kept⟩
    cases own.symm.trans own'
    exact kept lost

lemma manages (agrees : x.watcher.Agrees x.probes) (t : Turn) : x.Manages t := by
  have discards := fun connected => discards_iff agrees connected t
  cases x.tends t with
  | aside connected notReady subscribed probes =>
    have asked : x.asked t = [] := asked_eq probes
    constructor
    case asked => exact x.asked_append t
    case discards => exact discards
    case discarding =>
      intro held discards
      cases discards.symm.trans (connected.trans held)
    case connects => simp [asked]
    case makes => simp [asked, connected]
    case subscribes => simp [asked]
    case opens =>
      have none : ¬ (x.watcher.subscribed = false ∧ (x.step t).watcher.subscribed = true) :=
        fun ⟨before, opened⟩ => Bool.false_ne_true (before.symm.trans (subscribed opened))
      simp [asked, none]
  | tick _ unsubscribed ticked notes =>
    have asked := asked_eq (probes_eq notes)
    constructor
    case asked => exact x.asked_append t
    case discards => exact discards
    case discarding =>
      intro connected lost
      rw [notes, ticked.of_discards connected lost]
      rfl
    case connects =>
      rw [asked]
      exact fun ok asks => ticked.of_connect asks
    case makes => rw [asked, ticked.made_iff]
    case subscribes =>
      rw [asked]
      exact fun sub ok asks => ⟨unsubscribed, ticked.of_subscribe asks⟩
    case opens => rw [asked, ← ticked.opened_iff unsubscribed, and_iff_right unsubscribed]

/-- Whatever the service refuses or breaks off, connection and stream are managed that way in every
play, and so in the run of the watcher, which takes turns. -/
theorem connection_managed (sub : Subscription) (seed : SliceConfig) (script : ServiceScript)
    (period : Nat) :
    let start := ofScript sub seed script period
    (∀ turns, (start.after turns).Managed ∧ ∀ t, (start.after turns).Manages t) ∧
      ∀ stop peeks, start.Reaches ⟨(start.rehearsal.run stop peeks start.board).1,
        (start.rehearsal.run stop peeks start.board).2.1⟩ := by
  have agrees : (ofScript sub seed script period).watcher.Agrees
      (ofScript sub seed script period).probes := .none rfl rfl rfl (by rintro _ ⟨⟩)
  refine ⟨fun turns => ?_, fun stop peeks => reaches_run _ stop peeks _⟩
  have behind := agrees_after agrees turns
  exact ⟨managed behind, manages behind⟩

end Play

end SliceSelection.SliceStream
