import SliceSelection.Proofs.Lifecycle.Keepalive

/-!
# Left alone

While nothing comes from outside, the coordinator takes the expiries that were posted and waits for
the timer, so the next heartbeat begins without anybody's help.
-/

namespace SliceSelection.Lifecycle

open Registry

/-- Whether a happening needs nothing from outside: the coordinator acts, or time passes. -/
def Happening.isAlone : Happening → Bool
  | .event .act => true
  | .event (.elapse _) => true
  | _ => false

namespace Coordinator

variable {c : Coordinator}

/-- Where there is nothing to be heard, the oldest expiry is taken next. -/
lemma act_of_quiet (stage : c.stage = .listening) (going : c.cancelled = false)
    (quiet : c.IsQuiet) :
    c.act = c.timer.take.map fun (g, timer) =>
      { c with timer := timer }.handle (.heartbeatDue g) := by
  have unread : (c.hearing && c.board.channel.unread) = false := by
    cases hearing : c.hearing
    · rfl
    · exact (quiet hearing).1
  have closed : (c.hearing && c.board.channel.closed) = false := by
    cases hearing : c.hearing
    · rfl
    · exact (quiet hearing).2
  simp [act, stage, listen, going, unread, closed]

/-- An expiry that counts begins a heartbeat. -/
lemma act_of_current {g : Nat} {gs : List Nat} (stage : c.stage = .listening)
    (going : c.cancelled = false) (quiet : c.IsQuiet) (posted : c.timer.posted = g :: gs)
    (current : c.timer.isCurrent g = true) (state : c.self.state.isFinal = false) :
    c.act = some (
      { c with
        self := c.self.withState .updating
        timer := { c.timer with posted := gs }
        stage := .updating },
      [.update c.self.identity heartbeatPatch]) := by
  have current' : Heartbeat.isCurrent { c.timer with posted := gs } g = true := current
  simp [act_of_quiet stage going quiet, Heartbeat.take, posted, handle, current', state, beat]

lemma act_of_stale {g : Nat} {gs : List Nat} (stage : c.stage = .listening)
    (going : c.cancelled = false) (quiet : c.IsQuiet) (posted : c.timer.posted = g :: gs)
    (stale : c.timer.isCurrent g = false) :
    c.act = some ({ c with timer := { c.timer with posted := gs } }, []) := by
  have stale' : Heartbeat.isCurrent { c.timer with posted := gs } g = false := stale
  simp [act_of_quiet stage going quiet, Heartbeat.take, posted, handle, stale']

/-- With nothing posted the timer sleeps until it is due. -/
lemma mayPass_of_asleep {t : Nat} (stage : c.stage = .listening) (going : c.cancelled = false)
    (quiet : c.IsQuiet) (posted : c.timer.posted = []) (due : c.timer.due = some t)
    (early : c.now ≤ t) : c.mayPass (t - c.now) = true := by
  have act : c.act = none := by simp [act_of_quiet stage going quiet, Heartbeat.take, posted]
  have retry : c.retry = none := by simp [Coordinator.retry, stage]
  refine mayPass_iff.mpr ⟨by simp [isWaiting, act, retry], ?_, ?_⟩
  · intro u asleep
    obtain rfl : t = u := Option.some.inj (due.symm.trans asleep)
    omega
  · intro u other
    exact absurd (stage.symm.trans other) (by simp)

end Coordinator

variable {s s' : System} {calls : List Call}

lemma System.step_event {e : Coordinator.Event} {c : Coordinator} (own : e.isBoard = false)
    (step : s.toCoordinator.step e = some (c, calls)) :
    s.step (.event e) = some ({ s with toCoordinator := c }, calls) := by
  simp [System.step, own, System.through, step]

/-- A heartbeat begins at the end of a history, and nothing came from outside. -/
def HeartbeatAlone (s : System) : Prop :=
  ∃ x history s', Run s (x :: history) s' ∧ x.Updates ∧
    ∀ y ∈ x :: history, y.happening.isAlone = true

/-- What is done before a heartbeat that begins alone is done alone too. -/
lemma HeartbeatAlone.before {h : Happening} (step : s.step h = some (s', calls))
    (alone : h.isAlone = true) (next : HeartbeatAlone s') : HeartbeatAlone s := by
  obtain ⟨x, history, s'', run, updates, all⟩ := next
  have first : Run s [⟨s, h, calls, s'⟩] s' := .next .start step
  have whole := first.append run
  rw [List.cons_append] at whole
  refine ⟨x, history ++ [⟨s, h, calls, s'⟩], s'', whole, updates, ?_⟩
  intro y mem
  rw [← List.cons_append, List.mem_append, List.mem_singleton] at mem
  rcases mem with mem | rfl
  · exact all y mem
  · exact alone

/-- Where the oldest expiry counts, a heartbeat begins. -/
lemma System.IsSteady.heartbeat_of_current {g : Nat} {gs : List Nat} (steady : s.IsSteady)
    (stage : s.stage = .listening) (quiet : s.IsQuiet) (posted : s.timer.posted = g :: gs)
    (current : s.timer.isCurrent g = true) : HeartbeatAlone s := by
  have acts := Coordinator.act_of_current stage steady.going quiet posted current
    (steady.consistent.unfinished steady.going)
  refine ⟨_, [], _, .next .start (System.step_event (e := .act) rfl acts), ?_, ?_⟩
  · exact ⟨_, _, List.mem_singleton_self _⟩
  · simp [Happening.isAlone]

lemma System.IsSteady.heartbeat_of_asleep (steady : s.IsSteady) (one : s.live = 1)
    (stage : s.stage = .listening) (quiet : s.IsQuiet) (posted : s.timer.posted = []) :
    HeartbeatAlone s := by
  have live : s.timer.due.toList.length = 1 := by
    simpa [Coordinator.live, Heartbeat.live, posted, stage, Stage.handled] using one
  cases due : s.timer.due with
  | none => simp [due] at live
  | some t =>
    have early := steady.punctual.timer t due
    have may := Coordinator.mayPass_of_asleep stage steady.going quiet posted due early
    have passes : s.toCoordinator.step (.elapse (t - s.now)) =
        some ({ s.toCoordinator with now := t, timer := s.timer.elapse t }, []) := by
      simp only [Coordinator.step, Coordinator.elapse, may, if_true, Nat.add_sub_of_le early]
    have step := System.step_event rfl passes
    have next := (Change.of_step step).steady steady steady.going
    have ran : (s.timer.elapse t).posted = [s.timer.generation] := by
      simp [Heartbeat.elapse_of_le due (Nat.le_refl t), posted]
    have current : (s.timer.elapse t).isCurrent s.timer.generation = true := by
      simp [Heartbeat.isCurrent_iff, steady.consistent.running steady.going]
    exact .before step rfl (next.heartbeat_of_current stage quiet ran current)

/-- Where there is nothing to be heard, the next heartbeat begins without anything from outside. -/
lemma System.IsSteady.heartbeat_of_quiet (steady : s.IsSteady) (one : s.live = 1)
    (stage : s.stage = .listening) (quiet : s.IsQuiet) : HeartbeatAlone s := by
  obtain ⟨gs, posted⟩ : ∃ gs, s.timer.posted = gs := ⟨_, rfl⟩
  induction gs generalizing s with
  | nil => exact steady.heartbeat_of_asleep one stage quiet posted
  | cons g gs ih =>
    cases current : s.timer.isCurrent g with
    | true => exact steady.heartbeat_of_current stage quiet posted current
    | false =>
      have acts := Coordinator.act_of_stale stage steady.going quiet posted current
      have step := System.step_event (e := .act) rfl acts
      have next := (Change.of_step step).steady steady steady.going
      have one := (Run.start.next step).live steady steady.going one
      exact .before step rfl (ih next one stage quiet rfl)

/-- Where nothing is unread, the next heartbeat begins without anything from outside, whether the
channel is closed or not. -/
lemma System.IsSteady.heartbeat_of_read (steady : s.IsSteady) (one : s.live = 1)
    (stage : s.stage = .listening) (read : s.board.channel.unread = false) : HeartbeatAlone s := by
  by_cases gives : s.hearing = true ∧ s.board.channel.closed = true
  · have acts : s.act = some ({ s.toCoordinator with hearing := false }, []) := by
      simp [Coordinator.act, stage, Coordinator.listen, steady.going, gives, read]
    have step := System.step_event (e := .act) rfl acts
    have next := (Change.of_step step).steady steady steady.going
    have one := (Run.start.next step).live steady steady.going one
    exact .before step rfl (next.heartbeat_of_quiet one stage fun hearing => by cases hearing)
  · refine steady.heartbeat_of_quiet one stage fun hearing => ⟨read, ?_⟩
    exact eq_false_of_ne_true fun closed => gives ⟨hearing, closed⟩

end SliceSelection.Lifecycle
