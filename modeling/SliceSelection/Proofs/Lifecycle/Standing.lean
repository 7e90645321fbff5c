import SliceSelection.Proofs.Lifecycle.Addressing
import SliceSelection.Proofs.Lifecycle.Shutdown

/-!
# What the registered state tells

An attempt to register that is refused leaves the instance unregistered, but the timer runs on. The
next heartbeat that keeps the registration makes the instance registered again, although the
registry holds no more than the profile of an older attempt. So the instance is held to be
registered if and only if the last attempt was accepted or a heartbeat kept the registration since.
-/

namespace SliceSelection.Lifecycle

open Registry

/-- A call is under way. -/
def Stage.isCalling : Stage → Bool
  | registering _ _ => true
  | updating => true
  | deregistering => true
  | _ => false

/-- What the registry answers, if it does. -/
def Happening.answer? : Happening → Option Answer
  | event (.answer a) => some a
  | _ => none

/-- What the registry answered behind the beginning of the last attempt to register, the last answer
first, if there was an attempt. -/
def answersSince? : List Moment → Option (List Answer)
  | [] => none
  | m :: history =>
    if m.calls.any Call.isRegister then some []
    else (answersSince? history).map (m.happening.answer?.toList ++ ·)

/-- The outcome of the last attempt to register, if it was answered. -/
def lastOutcome? (history : List Moment) : Option RegisterOutcome :=
  match (answersSince? history).bind List.getLast? with
  | some (.register o) => some o
  | _ => none

/-- The last attempt to register had an outcome, and everything that was answered behind it was a
heartbeat that kept the registration. -/
structure Settled (o : RegisterOutcome) (beats : List UpdateOutcome) (history : List Moment) :
    Prop where
  answers : answersSince? history = some (beats.map .update ++ [.register o])
  kept : ∀ b ∈ beats, b.losesRegistration = false

/-- The state behind an outcome and the heartbeats that kept the registration since. -/
def stateBehind (o : RegisterOutcome) (beats : List UpdateOutcome) : State :=
  if o.isAccepted = true ∨ beats ≠ [] then .registered else .unregistered

/-- The stage and the state fit what the registry answered. -/
def Stage.Fits (history : List Moment) (state : State) : Stage → Prop
  | starting => state = .unregistered ∧ answersSince? history = none
  | registering _ _ => state = .registering ∧ answersSince? history = some []
  | updating => state = .updating ∧ ∃ o beats, Settled o beats history
  | retrying _ | listening | stopped =>
    ∃ o beats, state = stateBehind o beats ∧ Settled o beats history
  | deregistering => state = .deregistering ∧ (answersSince? history).isSome = true
  | ended => state = .stopped ∧ ∃ d answers, answersSince? history = some (.deregister d :: answers)

variable {s s' : System} {h : Happening} {calls : List Call} {history : List Moment} {m : Moment}
  {o : RegisterOutcome} {b : UpdateOutcome} {beats : List UpdateOutcome} {answers : List Answer}
  {stage : Stage} {st : State} {self : Instance} {store : SliceConfig} {retryDelay : Nat}

/-! ### One more moment -/

lemma answersSince?_cons (later : m.calls.any Call.isRegister = false) :
    answersSince? (m :: history) =
      (answersSince? history).map (m.happening.answer?.toList ++ ·) := by
  rw [answersSince?, if_neg (by simp [later])]

lemma answersSince?_quiet (later : m.calls.any Call.isRegister = false)
    (quiet : m.happening.answer? = none) :
    answersSince? (m :: history) = answersSince? history := by
  rw [answersSince?_cons later, quiet]
  exact Option.map_id'

lemma answersSince?_answer {a : Answer} (later : m.calls.any Call.isRegister = false)
    (answer : m.happening = .event (.answer a)) (before : answersSince? history = some answers) :
    answersSince? (m :: history) = some (a :: answers) := by
  rw [answersSince?_cons later, answer, before]
  rfl

namespace Settled

lemma quiet (settled : Settled o beats history) (later : m.calls.any Call.isRegister = false)
    (quiet : m.happening.answer? = none) : Settled o beats (m :: history) :=
  ⟨(answersSince?_quiet later quiet).trans settled.answers, settled.kept⟩

lemma of_answer (later : m.calls.any Call.isRegister = false)
    (answer : m.happening = .event (.answer (.register o)))
    (under : answersSince? history = some []) : Settled o [] (m :: history) :=
  ⟨answersSince?_answer later answer under, nofun⟩

lemma beat (settled : Settled o beats history) (later : m.calls.any Call.isRegister = false)
    (answer : m.happening = .event (.answer (.update b))) (kept : b.losesRegistration = false) :
    Settled o (b :: beats) (m :: history) :=
  ⟨answersSince?_answer later answer settled.answers, List.forall_mem_cons.mpr ⟨kept, settled.kept⟩⟩

lemma lastOutcome? (settled : Settled o beats history) : lastOutcome? history = some o := by
  simp [Lifecycle.lastOutcome?, settled.answers]

lemma unique {o' : RegisterOutcome} {beats' : List UpdateOutcome}
    (settled : Settled o beats history) (settled' : Settled o' beats' history) :
    o = o' ∧ beats = beats' := by
  have same := Option.some.inj (settled.answers.symm.trans settled'.answers)
  obtain ⟨same, last⟩ := List.append_inj' same rfl
  have injective : ∀ b b', Answer.update b = .update b' → b = b' := fun _ _ h => Answer.update.inj h
  exact ⟨Answer.register.inj (List.singleton_inj.mp last), (List.map_inj_right injective).mp same⟩

lemma accepted_iff (settled : Settled o beats history)
    (kept : o.isAccepted = true ∨ beats ≠ []) :
    (∃ o', Lifecycle.lastOutcome? history = some o' ∧ o'.isAccepted = true) ↔
      ¬ ∃ f b beats', Settled (.failed f) (b :: beats') history := by
  rw [settled.lastOutcome?]
  constructor
  · rintro ⟨o', same, accepted⟩ ⟨f, b, beats', failed⟩
    cases same
    obtain ⟨rfl, -⟩ := settled.unique failed
    cases accepted
  · -- A failed attempt is one behind which a heartbeat kept the registration.
    intro unrevived
    refine ⟨o, rfl, ?_⟩
    cases o with
    | created | updated => rfl
    | failed f =>
      obtain ⟨b, beats', rfl⟩ := List.exists_cons_of_ne_nil (kept.resolve_left nofun)
      exact absurd ⟨f, b, beats', settled⟩ unrevived

end Settled

lemma stateBehind_eq_registered_iff :
    stateBehind o beats = .registered ↔ o.isAccepted = true ∨ beats ≠ [] := by
  unfold stateBehind
  split
  · next registered => exact iff_of_true rfl registered
  · next refused => exact iff_of_false nofun refused

/-! ### What fits -/

lemma Stage.Fits.quiet (fits : stage.Fits history st)
    (later : m.calls.any Call.isRegister = false) (quiet : m.happening.answer? = none) :
    stage.Fits (m :: history) st := by
  have same : answersSince? (m :: history) = answersSince? history :=
    answersSince?_quiet later quiet
  cases stage with
  | starting | registering | deregistering => exact ⟨fits.1, same ▸ fits.2⟩
  | updating =>
    obtain ⟨state, o, beats, settled⟩ := fits
    exact ⟨state, o, beats, settled.quiet later quiet⟩
  | retrying | listening | stopped =>
    obtain ⟨o, beats, state, settled⟩ := fits
    exact ⟨o, beats, state, settled.quiet later quiet⟩
  | ended =>
    obtain ⟨state, d, answers, gone⟩ := fits
    exact ⟨state, d, answers, same.trans gone⟩

/-- Every change keeps stage and state fitting. -/
lemma Change.fits (change : Change s h s' calls) (fits : s.stage.Fits history s.self.state) :
    s'.stage.Fits (⟨s, h, calls, s'⟩ :: history) s'.self.state := by
  cases change with
  | event own rule =>
    cases rule with
    | board => cases own
    -- These begin no attempt and answer nothing.
    | cancel | elapse | approach | disregard | deafen | ignore => exact fits.quiet rfl rfl
    | giveUp stage | stop stage =>
      rw [stage] at fits
      exact Stage.Fits.quiet fits rfl rfl
    -- A new attempt: what was answered before counts no more.
    | boot | retry | hear | lost => exact ⟨rfl, rfl⟩
    | beat stage =>
      rw [stage] at fits
      obtain ⟨o, beats, -, settled⟩ := fits
      exact ⟨rfl, o, beats, settled.quiet rfl rfl⟩
    -- The attempt is answered, and it is the first answer behind its beginning.
    | @accepted _ _ o stage outcome =>
      rw [stage] at fits
      have state : stateBehind o [] = .registered :=
        stateBehind_eq_registered_iff.mpr (.inl outcome)
      exact ⟨o, [], state.symm, .of_answer rfl rfl fits.2⟩
    | refusedBoot stage | refusedChange stage | refusedAgain stage =>
      rw [stage] at fits
      exact ⟨.failed _, [], rfl, .of_answer rfl rfl fits.2⟩
    | @kept b stage outcome =>
      rw [stage] at fits
      obtain ⟨-, o, beats, settled⟩ := fits
      have state : stateBehind o (b :: beats) = .registered :=
        stateBehind_eq_registered_iff.mpr (.inr (List.cons_ne_nil _ _))
      exact ⟨o, b :: beats, state.symm, settled.beat rfl rfl outcome⟩
    | deregister stage =>
      rw [stage] at fits
      obtain ⟨o, beats, -, settled⟩ := fits
      refine ⟨rfl, ?_⟩
      rw [answersSince?_quiet rfl rfl, settled.answers]
      rfl
    | @deregistered d stage =>
      rw [stage] at fits
      obtain ⟨answers, before⟩ := Option.isSome_iff_exists.mp fits.2
      exact ⟨rfl, d, answers, answersSince?_answer rfl rfl before⟩
  | repeated | moved | published | close => exact fits.quiet rfl rfl

lemma Run.fits (run : Run (.ofInstance self store retryDelay) history s) :
    s.stage.Fits history s.self.state := by
  induction run with
  | start => exact ⟨rfl, rfl⟩
  | next _ step ih => exact (Change.of_step step).fits ih

/-- Where no call is under way, the last attempt and the heartbeats behind it tell the state. -/
lemma Stage.Fits.state (fits : stage.Fits history st) (idle : stage.isCalling = false)
    (settled : Settled o beats history) : st = stateBehind o beats := by
  cases stage with
  | registering | updating | deregistering => cases idle
  | starting => exact absurd (fits.2.symm.trans settled.answers) nofun
  | retrying | listening | stopped =>
    obtain ⟨o', beats', state, settled'⟩ := fits
    obtain ⟨rfl, rfl⟩ := settled.unique settled'
    exact state
  | ended =>
    -- The last answer is that to the deregistration.
    obtain ⟨-, d, answers, gone⟩ := fits
    have same := Option.some.inj (gone.symm.trans settled.answers)
    cases beats <;> cases same

lemma Stage.Fits.settled (fits : stage.Fits history .registered) :
    stage.isCalling = false ∧
      ∃ o beats, Settled o beats history ∧ (o.isAccepted = true ∨ beats ≠ []) := by
  cases stage with
  | starting | registering | updating | deregistering | ended => cases fits.1
  | retrying | listening | stopped =>
    obtain ⟨o, beats, state, settled⟩ := fits
    exact ⟨rfl, o, beats, settled, stateBehind_eq_registered_iff.mp state.symm⟩

/-- What the registered state tells about a run. -/
structure Standing (history : List Moment) (s : System) : Prop where
  /-- The instance is held to be registered if and only if no call is under way, and the last
  attempt was accepted or a heartbeat kept the registration behind it. -/
  registered_iff : s.self.state = .registered ↔ s.stage.isCalling = false ∧
    ∃ o beats, Settled o beats history ∧ (o.isAccepted = true ∨ beats ≠ [])
  /-- Then the last attempt was accepted unless it failed and was followed by such a heartbeat. -/
  truthful_iff : s.self.state = .registered →
    ((∃ o, lastOutcome? history = some o ∧ o.isAccepted = true) ↔
      ¬ ∃ f b beats, Settled (.failed f) (b :: beats) history)
  /-- An attempt that failed leaves the instance unregistered until then. -/
  refused : ∀ f, s.stage.isCalling = false → Settled (.failed f) [] history →
    s.self.state = .unregistered
  /-- In any case some attempt was accepted before. -/
  accepted : s.self.state = .registered → ∃ z ∈ history, z.Accepts

/-- The registered state tells that the registry holds a record of the instance, but not that it
took the last attempt. -/
theorem standing (run : Run (.ofInstance self store retryDelay) history s) :
    Standing history s := by
  have fits := run.fits
  constructor
  case registered_iff =>
    constructor
    · intro state
      rw [state] at fits
      exact fits.settled
    · rintro ⟨idle, o, beats, settled, kept⟩
      exact (fits.state idle settled).trans (stateBehind_eq_registered_iff.mpr kept)
  case truthful_iff =>
    intro state
    rw [state] at fits
    obtain ⟨-, o, beats, settled, kept⟩ := fits.settled
    exact settled.accepted_iff kept
  case refused =>
    intro f idle settled
    exact fits.state idle settled
  case accepted =>
    intro state
    exact (run.unarmed unarmed_ofInstance).resolve_left fun idle => idle.state state

/-- The registration that other networks call for fails, and the next heartbeat is answered as
ever. -/
def revived : List Happening :=
  [.event (.answer (.update (.success none))), .event .act, .event (.elapse 60000),
    .event (.answer (.register (.failed (.unexpectedStatus 503)))), .event .act,
    .ingest [⟨⟨"001", "01"⟩, []⟩]] ++ bootAtOnce

theorem standing_revived :
    ∃ history s, servingOne.play revived = some (history, s) ∧ s.self.state = .registered ∧
      Standing history s := by
  obtain ⟨history, s, played, state⟩ :
      ∃ history s, servingOne.play revived = some (history, s) ∧ s.self.state = .registered :=
    ⟨_, _, rfl, rfl⟩
  exact ⟨history, s, played, state, standing (.of_play _ played)⟩

/-- The registered state does not tell that the last attempt was accepted. -/
theorem registered_though_refused :
    ¬ ∀ history s, Run servingOne history s → s.stage.isCalling = false →
      s.self.state = .registered →
        ∃ o, lastOutcome? history = some o ∧ o.isAccepted = true := by
  intro truthful
  obtain ⟨history, s, played, idle, state, failed⟩ :
      ∃ history s, servingOne.play revived = some (history, s) ∧ s.stage.isCalling = false ∧
        s.self.state = .registered ∧
        lastOutcome? history = some (.failed (.unexpectedStatus 503)) :=
    ⟨_, _, rfl, rfl, rfl, rfl⟩
  obtain ⟨o, last, accepted⟩ := truthful history s (.of_play _ played) idle state
  rw [failed] at last
  cases last
  cases accepted

end SliceSelection.Lifecycle
