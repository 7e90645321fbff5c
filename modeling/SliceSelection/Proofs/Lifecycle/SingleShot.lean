import Mathlib.Data.List.Induction
import Mathlib.Data.List.Nodup
import SliceSelection.Proofs.Lifecycle.Heartbeat

/-!
# Each arming runs out once

A timer is armed, stopped and read in any order, and time passes between. Every arming that is not
overtaken posts one expiry when its time has come, and one that is overtaken posts none. Expiries
that are still unread when the timer is armed anew are told from the new one by their generations,
which only grow. Whatever happens at the instant at which an expiry is due happens behind it.
-/

namespace SliceSelection.Lifecycle.Heartbeat

/-! ### Waiting -/

lemma take_cases (h : Heartbeat) : h.take = none ∨
    ∃ g left, h.take = some (g, left) ∧ { left with posted := g :: left.posted } = h := by
  obtain ⟨interval, generation, due, stopped, posted⟩ := h
  cases posted with
  | nil => exact .inl rfl
  | cons g posted => exact .inr ⟨g, _, rfl, rfl⟩

lemma le_wakes {h : Heartbeat} {now limit : Nat} (le : now ≤ limit) :
    now ≤ h.wakes now limit := by
  unfold wakes
  split <;> omega

/-- Waiting for an expiry lets time pass, and takes the oldest one that was posted. -/
lemma await_cases (h : Heartbeat) (now limit : Nat) : ∃ g left,
    h.await now limit = (g, h.wakes now limit, left) ∧
      { left with posted := g.toList ++ left.posted } = h.elapse (h.wakes now limit) := by
  rcases take_cases (h.elapse (h.wakes now limit)) with nothing | ⟨g, left, taken, back⟩
  · refine ⟨none, h.elapse (h.wakes now limit), ?_, rfl⟩
    rw [await, nothing]
  · refine ⟨some g, left, ?_, back⟩
    rw [await, taken]

/-! ### Timers in use -/

/-- What may be done with a timer. -/
inductive Use where
  | start (seconds : Option UInt32)
  | refresh (seconds : Option UInt32)
  | stop
  | wait (milliseconds : Nat)
  /-- Take an expiry, or wait so long for one. -/
  | receive (milliseconds : Nat)
deriving DecidableEq, Repr

namespace Use

/-- The seconds for which the timer would be armed, on the interval before. -/
def seconds? (before : Option Nat) : Use → Option Nat
  | start s => some ((positiveSeconds s).getD defaultHeartbeat)
  | refresh s => some (((positiveSeconds s).or before).getD defaultHeartbeat)
  | stop | wait _ | receive _ => none

/-- The timer would be armed. -/
def arms : Use → Bool
  | start _ | refresh _ => true
  | stop | wait _ | receive _ => false

/-- The timer would be armed or stopped. -/
def Resets (u : Use) : Prop := u.arms = true ∨ u = stop

end Use

/-- A timer in use. -/
structure Service where
  now : Nat
  timer : Heartbeat
  /-- The generations of the expiries that were received, the first one first. -/
  received : List Nat

namespace Service

def new : Service := ⟨0, idle, []⟩

def step (x : Service) : Use → Service
  | .start s => { x with timer := x.timer.start x.now s }
  | .refresh s => { x with timer := x.timer.refresh x.now s }
  | .stop => { x with timer := x.timer.stop }
  | .wait ms => { x with now := x.now + ms, timer := x.timer.elapse (x.now + ms) }
  | .receive ms =>
    let (g, now, timer) := x.timer.await x.now (x.now + ms)
    ⟨now, timer, x.received ++ g.toList⟩

def after (x : Service) (uses : List Use) : Service := uses.foldl step x

/-- The expiries that were ever posted, by their generations, the first one first. -/
def expiries (x : Service) : List Nat := x.received ++ x.timer.posted

/-- The seconds for which a use arms the timer, which it does not once the timer was stopped. -/
def arms? (x : Service) (u : Use) : Option Nat :=
  if x.timer.stopped then none else u.seconds? x.timer.interval

/-- The timer is armed anew or stopped before a time. -/
def Disturbed (x : Service) (time : Nat) (uses : List Use) : Prop :=
  ∃ earlier u later, uses = earlier ++ u :: later ∧ u.Resets ∧ (x.after earlier).now < time

/-! ### Single uses -/

variable {x y : Service} {u : Use} {uses : List Use} {seconds t g : Nat}

/-- The timer as if no expiry had been received. -/
def whole (x : Service) : Heartbeat := { x.timer with posted := x.expiries }

lemma whole_elapse (time : Nat) :
    { x.timer.elapse time with posted := x.received ++ (x.timer.elapse time).posted } =
      x.whole.elapse time := by
  cases asleep : x.timer.due with
  | none => simp [elapse, whole, expiries, asleep]
  | some t => by_cases come : t ≤ time <;> simp [elapse, whole, expiries, asleep, come]

/-- What a use does. -/
inductive Steps (x y : Service) (u : Use) : Prop where
  | arm (seconds : Nat) (arms : u.arms = true) (tells : x.arms? u = some seconds)
      (running : x.timer.stopped = false) (step : y = { x with timer := { x.timer with
        interval := some seconds
        generation := x.timer.generation + 1
        due := some (x.now + 1000 * seconds) } })
  /-- The timer was stopped before. -/
  | late (arms : u.arms = true) (stopped : x.timer.stopped = true) (step : y = x)
  | stop (stops : u = .stop) (step : y = { x with timer := x.timer.stop })
  | pass (quiet : ¬ u.Resets) (later : x.now ≤ y.now)
      (asleep : ∀ t, x.timer.due = some t → y.now < t)
      (timer : y.timer = { x.timer with posted := y.timer.posted })
      (expiries : y.expiries = x.expiries)
  /-- Time passes, and the timer runs out. -/
  | post (t : Nat) (quiet : ¬ u.Resets) (later : x.now ≤ y.now) (due : x.timer.due = some t)
      (come : t ≤ y.now)
      (timer : y.timer = { x.timer with due := none, posted := y.timer.posted })
      (expiries : y.expiries = x.expiries ++ [x.timer.generation])

lemma steps_arm (arms : u.arms = true) (tells : u.seconds? x.timer.interval = some seconds)
    (step : x.step u = { x with timer := x.timer.arm x.now seconds }) : x.Steps (x.step u) u := by
  cases running : x.timer.stopped with
  | true =>
    refine .late arms running ?_
    rw [step, Heartbeat.arm, if_pos running]
  | false =>
    refine .arm seconds arms ?_ running (by rw [step, arm_eq running])
    rw [arms?, if_neg (Bool.eq_false_iff.mp running), tells]

lemma steps_elapse (quiet : ¬ u.Resets) (later : x.now ≤ y.now)
    (whole : y.whole = x.whole.elapse y.now) : x.Steps y u := by
  have expiries : y.expiries = (x.whole.elapse y.now).posted := congrArg posted whole
  have timer : y.timer = { x.whole.elapse y.now with posted := y.timer.posted } :=
    congrArg (fun h => { h with posted := y.timer.posted }) whole
  cases due : x.timer.due with
  | none =>
    have awake : x.whole.due = none := due
    rw [elapse_of_none awake] at timer expiries
    exact .pass quiet later (by simp [due]) timer expiries
  | some t =>
    have asleep : x.whole.due = some t := due
    rcases Nat.lt_or_ge y.now t with early | come
    · rw [elapse_of_lt asleep early] at timer expiries
      refine .pass quiet later ?_ timer expiries
      rintro _ due'
      cases due.symm.trans due'
      exact early
    · rw [elapse_of_le asleep come] at timer expiries
      exact .post t quiet later due come timer expiries

lemma steps (x : Service) (u : Use) : x.Steps (x.step u) u := by
  cases u with
  | start s | refresh s => exact steps_arm rfl rfl rfl
  | stop => exact .stop rfl rfl
  | wait ms =>
    refine steps_elapse ?_ (Nat.le_add_right ..) (whole_elapse _)
    simp [Use.Resets, Use.arms]
  | receive ms =>
    obtain ⟨g, left, awaited, whole⟩ := x.timer.await_cases x.now (x.now + ms)
    have step : x.step (.receive ms) =
        ⟨x.timer.wakes x.now (x.now + ms), left, x.received ++ g.toList⟩ := by
      rw [Service.step, awaited]
    rw [step]
    refine steps_elapse ?_ (le_wakes (Nat.le_add_right ..)) ?_
    · simp [Use.Resets, Use.arms]
    · rw [← whole_elapse, ← whole]
      simp [Service.whole, expiries]

/-! ### What holds at all times -/

lemma pos_of_positiveSeconds {s : Option UInt32} (set : positiveSeconds s = some seconds) :
    0 < seconds := by
  obtain ⟨n, rfl, counts⟩ := Option.bind_eq_some_iff.mp set
  split at counts
  · cases counts
  · next nonzero =>
    cases counts
    exact Nat.pos_of_ne_zero fun zero => nonzero (UInt32.toNat_inj.mp zero)

lemma getD_default_pos {o : Option Nat} (pos : ∀ s, o = some s → 0 < s) :
    0 < o.getD defaultHeartbeat := by
  cases o with
  | none => decide
  | some s => exact pos s rfl

lemma seconds?_pos {before : Option Nat} (pos : ∀ s, before = some s → 0 < s)
    (tells : u.seconds? before = some seconds) : 0 < seconds := by
  cases u with
  | start s =>
    cases tells
    exact getD_default_pos fun _ => pos_of_positiveSeconds
  | refresh s =>
    cases tells
    refine getD_default_pos fun n set => ?_
    rcases Option.or_eq_some_iff.mp set with set | ⟨-, set⟩
    · exact pos_of_positiveSeconds set
    · exact pos n set
  | stop | wait | receive => cases tells

/-- What holds at all times. -/
structure Sound (x : Service) : Prop where
  increasing : x.expiries.Pairwise (· < ·)
  bounded : ∀ g ∈ x.expiries, g ≤ x.timer.generation
  /-- An expiry that is still to come was not posted yet. -/
  asleep : ∀ t, x.timer.due = some t →
    x.now < t ∧ x.timer.stopped = false ∧ ∀ g ∈ x.expiries, g < x.timer.generation
  positive : ∀ s, x.timer.interval = some s → 0 < s

lemma Sound.new : new.Sound := ⟨.nil, nofun, nofun, nofun⟩

lemma Sound.step (sound : x.Sound) (u : Use) : (x.step u).Sound := by
  have steps := x.steps u
  generalize x.step u = y at steps
  cases steps with
  | arm seconds _ tells running step =>
    subst step
    have pos : 0 < seconds := by
      rw [arms?, if_neg (Bool.eq_false_iff.mp running)] at tells
      exact seconds?_pos sound.positive tells
    constructor
    case increasing => exact sound.increasing
    case bounded => exact fun g posted => Nat.le_succ_of_le (sound.bounded g posted)
    case asleep =>
      rintro _ ⟨⟩
      refine ⟨?_, running, fun g posted => Nat.lt_succ_of_le (sound.bounded g posted)⟩
      show x.now < x.now + 1000 * seconds
      omega
    case positive =>
      rintro _ ⟨⟩
      exact pos
  | late _ _ step => exact step ▸ sound
  | stop _ step =>
    subst step
    constructor
    case increasing => exact sound.increasing
    case bounded => exact fun g posted => Nat.le_succ_of_le (sound.bounded g posted)
    case asleep => exact nofun
    case positive => exact sound.positive
  | pass _ _ asleep timer expiries =>
    constructor
    case increasing =>
      rw [expiries]
      exact sound.increasing
    case bounded =>
      rw [expiries, timer]
      exact sound.bounded
    case asleep =>
      rw [expiries, timer]
      exact fun t due => ⟨asleep t due, (sound.asleep t due).2⟩
    case positive =>
      rw [timer]
      exact sound.positive
  | post t _ _ due come timer expiries =>
    constructor
    case increasing =>
      have later := (sound.asleep t due).2.2
      rw [expiries, List.pairwise_append]
      exact ⟨sound.increasing, List.pairwise_singleton .., by simpa using later⟩
    case bounded =>
      rw [expiries, timer, List.forall_mem_append]
      exact ⟨sound.bounded, by simp⟩
    case asleep =>
      rw [timer]
      exact nofun
    case positive =>
      rw [timer]
      exact sound.positive

lemma Sound.after (sound : x.Sound) (uses : List Use) : (x.after uses).Sound := by
  induction uses generalizing x with
  | nil => exact sound
  | cons u uses ih => exact ih (sound.step u)

lemma Sound.unposted (sound : x.Sound) (due : x.timer.due = some t) :
    x.timer.generation ∉ x.expiries := fun posted =>
  Nat.lt_irrefl _ ((sound.asleep t due).2.2 _ posted)

lemma now_le_step (x : Service) (u : Use) : x.now ≤ (x.step u).now := by
  cases x.steps u with
  | arm _ _ _ _ step | late _ _ step | stop _ step => exact Nat.le_of_eq (congrArg now step).symm
  | pass _ later | post _ _ later => exact later

lemma now_le_after (x : Service) (uses : List Use) : x.now ≤ (x.after uses).now := by
  induction uses generalizing x with
  | nil => exact Nat.le_refl _
  | cons u uses ih => exact Nat.le_trans (x.now_le_step u) (ih _)

/-! ### What becomes of an arming -/

/-- The arming that began a generation is past: its expiry was posted, or it was overtaken. -/
def IsPast (x : Service) (g : Nat) : Prop :=
  g < x.timer.generation ∨ g = x.timer.generation ∧ x.timer.due = none

lemma IsPast.step (past : x.IsPast g) (u : Use) :
    (x.step u).IsPast g ∧ (g ∈ (x.step u).expiries ↔ g ∈ x.expiries) := by
  have le : g ≤ x.timer.generation := past.elim Nat.le_of_lt fun latest => Nat.le_of_eq latest.1
  have steps := x.steps u
  generalize x.step u = y at steps
  cases steps with
  | arm _ _ _ _ step | stop _ step =>
    subst step
    exact ⟨.inl (Nat.lt_succ_of_le le), .rfl⟩
  | late _ _ step =>
    subst step
    exact ⟨past, .rfl⟩
  | pass _ _ _ timer expiries =>
    rw [IsPast, expiries, timer]
    exact ⟨past, .rfl⟩
  | post t _ _ due _ timer expiries =>
    have lt : g < x.timer.generation := past.resolve_right fun latest => by simp [due] at latest
    rw [IsPast, expiries, timer]
    exact ⟨.inl lt, by simp [Nat.ne_of_lt lt]⟩

lemma IsPast.mem_after (past : x.IsPast g) (uses : List Use) :
    g ∈ (x.after uses).expiries ↔ g ∈ x.expiries := by
  induction uses generalizing x with
  | nil => exact .rfl
  | cons u uses ih =>
    obtain ⟨past', posted⟩ := past.step u
    exact (ih past').trans posted

lemma disturbed_cons : x.Disturbed t (u :: uses) ↔
    u.Resets ∧ x.now < t ∨ (x.step u).Disturbed t uses := by
  constructor
  · rintro ⟨_ | ⟨v, earlier⟩, w, later, split, resets, early⟩
    · cases split
      exact .inl ⟨resets, early⟩
    · cases split
      exact .inr ⟨earlier, w, later, rfl, resets, early⟩
  · rintro (⟨resets, early⟩ | ⟨earlier, w, later, rfl, resets, early⟩)
    · exact ⟨[], u, uses, rfl, resets, early⟩
    · exact ⟨u :: earlier, w, later, rfl, resets, early⟩

lemma not_disturbed (late : t ≤ x.now) (uses : List Use) : ¬ x.Disturbed t uses := by
  rintro ⟨earlier, _, _, _, _, early⟩
  exact Nat.not_le_of_lt early (Nat.le_trans late (x.now_le_after earlier))

/-- Arming and stopping begin a generation and post nothing. -/
lemma overtakes (running : x.timer.stopped = false) (resets : u.Resets) :
    x.timer.generation < (x.step u).timer.generation ∧ (x.step u).expiries = x.expiries := by
  have steps := x.steps u
  generalize x.step u = y at steps
  cases steps with
  | arm _ _ _ _ step | stop _ step =>
    subst step
    exact ⟨Nat.lt_succ_self _, rfl⟩
  | late _ stopped => cases running.symm.trans stopped
  | pass quiet | post _ quiet => exact absurd resets quiet

/-- The expiry that a timer sleeps for is posted if it is due by the end and nothing came before. -/
lemma mem_after_iff (sound : x.Sound) (due : x.timer.due = some t) (uses : List Use) :
    x.timer.generation ∈ (x.after uses).expiries ↔
      t ≤ (x.after uses).now ∧ ¬ x.Disturbed t uses := by
  induction uses generalizing x with
  | nil =>
    exact iff_of_false (sound.unposted due) fun late =>
      Nat.not_le_of_lt (sound.asleep t due).1 late.1
  | cons u uses ih =>
    obtain ⟨early, running, -⟩ := sound.asleep t due
    have behind : x.after (u :: uses) = (x.step u).after uses := rfl
    rw [behind, disturbed_cons]
    by_cases resets : u.Resets
    · -- The expiry is still to come, and from now on its generation is past.
      obtain ⟨later, expiries⟩ := overtakes running resets
      rw [IsPast.mem_after (.inl later), expiries]
      exact iff_of_false (sound.unposted due) fun due => due.2 (.inl ⟨resets, early⟩)
    · rw [or_iff_right fun disturbed => resets disturbed.1]
      have sound' := sound.step u
      have steps := x.steps u
      generalize x.step u = y at steps sound' behind ⊢
      cases steps with
      | arm _ arms | late arms => exact absurd (.inl arms) resets
      | stop stops => exact absurd (.inr stops) resets
      | pass _ _ _ timer =>
        have generation : y.timer.generation = x.timer.generation := by rw [timer]
        rw [← generation]
        exact ih sound' (by rw [timer]; exact due)
      | post t' _ _ due' come timer expiries =>
        obtain rfl : t = t' := Option.some.inj (due.symm.trans due')
        have past : y.IsPast x.timer.generation := .inr (by rw [timer]; exact ⟨rfl, rfl⟩)
        rw [past.mem_after, expiries]
        exact iff_of_true (by simp)
          ⟨Nat.le_trans come (y.now_le_after uses), not_disturbed come uses⟩

/-! ### Generations -/

lemma running_step (running : x.timer.stopped = false) (goes : u ≠ .stop) :
    (x.step u).timer.stopped = false ∧
      (x.step u).timer.generation = x.timer.generation + if u.arms then 1 else 0 := by
  have steps := x.steps u
  generalize x.step u = y at steps
  cases steps with
  | arm _ arms _ _ step =>
    subst step
    rw [if_pos arms]
    exact ⟨running, rfl⟩
  | late _ stopped => cases running.symm.trans stopped
  | stop stops => exact absurd stops goes
  | pass quiet _ _ timer | post _ quiet _ _ _ timer =>
    rw [timer, if_neg fun arms => quiet (.inl arms)]
    exact ⟨running, rfl⟩

/-- A timer that is not stopped counts its armings. -/
lemma running_after (running : x.timer.stopped = false) (goes : .stop ∉ uses) :
    (x.after uses).timer.stopped = false ∧
      (x.after uses).timer.generation = x.timer.generation + uses.countP Use.arms := by
  induction uses generalizing x with
  | nil => exact ⟨running, rfl⟩
  | cons u uses ih =>
    rw [List.mem_cons, not_or] at goes
    obtain ⟨running', generation⟩ := running_step running (Ne.symm goes.1)
    obtain ⟨stays, counted⟩ := ih running' goes.2
    refine ⟨stays, counted.trans ?_⟩
    rw [generation, List.countP_cons]
    omega

lemma generation_le_step (x : Service) (u : Use) :
    x.timer.generation ≤ (x.step u).timer.generation := by
  have steps := x.steps u
  generalize x.step u = y at steps
  cases steps with
  | arm _ _ _ _ step | stop _ step =>
    subst step
    exact Nat.le_succ _
  | late _ _ step => exact step ▸ Nat.le_refl _
  | pass _ _ _ timer | post _ _ _ _ _ timer => exact timer ▸ Nat.le_refl _

lemma generation_le_after (x : Service) (uses : List Use) :
    x.timer.generation ≤ (x.after uses).timer.generation := by
  induction uses generalizing x with
  | nil => exact Nat.le_refl _
  | cons u uses ih => exact Nat.le_trans (x.generation_le_step u) (ih _)

/-! ### Stopped timers -/

lemma Sound.silent_step (sound : x.Sound) (stopped : x.timer.stopped = true) (u : Use) :
    (x.step u).timer.stopped = true ∧ (x.step u).expiries = x.expiries := by
  have steps := x.steps u
  generalize x.step u = y at steps
  cases steps with
  | arm _ _ _ running => cases running.symm.trans stopped
  | late _ _ step =>
    subst step
    exact ⟨stopped, rfl⟩
  | stop _ step =>
    subst step
    exact ⟨rfl, rfl⟩
  | pass _ _ _ timer expiries => exact ⟨by rw [timer]; exact stopped, expiries⟩
  | post t _ _ due => cases (sound.asleep t due).2.1.symm.trans stopped

lemma Sound.silent_after (sound : x.Sound) (stopped : x.timer.stopped = true) (uses : List Use) :
    (x.after uses).timer.stopped = true ∧ (x.after uses).expiries = x.expiries := by
  induction uses generalizing x with
  | nil => exact ⟨stopped, rfl⟩
  | cons u uses ih =>
    obtain ⟨stopped', expiries⟩ := sound.silent_step stopped u
    obtain ⟨stays, silent⟩ := ih (sound.step u) stopped'
    exact ⟨stays, silent.trans expiries⟩

lemma stopped_after (earlier later : List Use) :
    (new.after (earlier ++ .stop :: later)).timer.stopped = true ∧
      (new.after (earlier ++ .stop :: later)).expiries = (new.after earlier).expiries := by
  have sound : ((new.after earlier).step .stop).Sound := (Sound.new.after earlier).step .stop
  have behind : new.after (earlier ++ .stop :: later) =
      ((new.after earlier).step .stop).after later := List.foldl_append
  rw [behind]
  exact sound.silent_after rfl later

lemma step_of_stopped (stopped : x.timer.stopped = true) (arms : u.arms = true) : x.step u = x := by
  cases x.steps u with
  | arm _ _ _ running => cases running.symm.trans stopped
  | late _ _ step => exact step
  | stop stops => cases stops ▸ arms
  | pass quiet | post _ quiet => exact absurd (.inl arms) quiet

/-! ### All uses -/

/-- An arming among uses of a new timer that was not stopped before. -/
structure Arming (uses : List Use) where
  earlier : List Use
  use : Use
  later : List Use
  seconds : Nat
  split : uses = earlier ++ use :: later
  tells : (new.after earlier).arms? use = some seconds

namespace Arming

variable {a b : Arming uses}

/-- The generation that it begins. -/
def generation (a : Arming uses) : Nat := (new.after a.earlier).timer.generation + 1

/-- When its expiry is due. -/
def due (a : Arming uses) : Nat := (new.after a.earlier).now + 1000 * a.seconds

/-- The timer is armed anew or stopped before the expiry is due. -/
def Overtaken (a : Arming uses) : Prop :=
  ((new.after a.earlier).step a.use).Disturbed a.due a.later

lemma arms (a : Arming uses) :
    (new.after a.earlier).timer.stopped = false ∧ a.use.arms = true := by
  have tells := a.tells
  unfold arms? at tells
  split at tells
  · cases tells
  · next running =>
    refine ⟨Bool.eq_false_iff.mpr running, ?_⟩
    cases use : a.use with
    | start | refresh => rfl
    | stop | wait | receive =>
      rw [use] at tells
      cases tells

/-- It begins a generation, and the sleep of its expiry. -/
lemma step_eq (a : Arming uses) :
    (new.after a.earlier).step a.use = { new.after a.earlier with timer := {
      (new.after a.earlier).timer with
      interval := some a.seconds
      generation := a.generation
      due := some a.due } } := by
  obtain ⟨running, arms⟩ := a.arms
  cases (new.after a.earlier).steps a.use with
  | arm _ _ tells _ step =>
    cases a.tells.symm.trans tells
    exact step
  | late _ stopped => cases running.symm.trans stopped
  | stop stops => cases stops ▸ arms
  | pass quiet | post _ quiet => exact absurd (.inl arms) quiet

lemma after_eq (a : Arming uses) :
    new.after uses = ((new.after a.earlier).step a.use).after a.later :=
  calc new.after uses
      = new.after (a.earlier ++ a.use :: a.later) := congrArg new.after a.split
    _ = ((new.after a.earlier).step a.use).after a.later := List.foldl_append

lemma posted_iff (a : Arming uses) : a.generation ∈ (new.after uses).expiries ↔
    a.due ≤ (new.after uses).now ∧ ¬ a.Overtaken := by
  have sound : ((new.after a.earlier).step a.use).Sound := (Sound.new.after a.earlier).step a.use
  have due : ((new.after a.earlier).step a.use).timer.due = some a.due := by rw [a.step_eq]
  have generation : ((new.after a.earlier).step a.use).timer.generation = a.generation := by
    rw [a.step_eq]
  rw [a.after_eq, ← generation]
  exact mem_after_iff sound due a.later

/-- A later arming begins a later generation. -/
lemma generation_lt {a b : Arming uses} (before : a.earlier.length < b.earlier.length) :
    a.generation < b.generation := by
  have split := a.split.symm.trans b.split
  rcases List.append_eq_append_iff.mp split with ⟨between, earlier, split⟩ | ⟨_, earlier, -⟩
  · rcases between with _ | ⟨u, between⟩
    · simp [earlier] at before
    · obtain ⟨rfl, -⟩ := List.cons.inj split
      have behind : new.after b.earlier =
          ((new.after a.earlier).step a.use).after between := by
        rw [earlier]
        exact List.foldl_append
      have generation := generation_le_after ((new.after a.earlier).step a.use) between
      rw [← behind, a.step_eq] at generation
      exact Nat.lt_succ_of_le generation
  · rw [earlier, List.length_append] at before
    omega

/-- It is one of more uses, too. -/
def extend (a : Arming uses) (u : Use) : Arming (uses ++ [u]) :=
  { a with
    later := a.later ++ [u]
    split := (congrArg (· ++ [u]) a.split).trans (List.append_assoc ..) }

lemma isCurrent_iff (goes : .stop ∉ uses) (a : Arming uses) :
    (new.after uses).timer.isCurrent a.generation = true ↔ ∀ u ∈ a.later, u.arms = false := by
  have goes : .stop ∉ a.later := fun stops =>
    goes (a.split ▸ List.mem_append_right _ (List.mem_cons_of_mem _ stops))
  have running : ((new.after a.earlier).step a.use).timer.stopped = false := by
    rw [a.step_eq]
    exact a.arms.1
  obtain ⟨running, generation⟩ := running_after running goes
  rw [← a.after_eq] at running generation
  rw [a.step_eq] at generation
  rw [Heartbeat.isCurrent_iff, and_iff_right running, generation, Nat.left_eq_add,
    List.countP_eq_zero]
  simp

end Arming

/-- Every expiry is that of an arming. -/
lemma exists_arming (uses : List Use) :
    (∀ g ∈ (new.after uses).expiries, ∃ a : Arming uses, a.generation = g) ∧
      ∀ t, (new.after uses).timer.due = some t →
        ∃ a : Arming uses, a.generation = (new.after uses).timer.generation := by
  induction uses using List.reverseRecOn with
  | nil => exact ⟨nofun, nofun⟩
  | append_singleton uses u ih =>
    have still {g : Nat} : (∃ a : Arming uses, a.generation = g) →
        ∃ a : Arming (uses ++ [u]), a.generation = g :=
      fun ⟨a, began⟩ => ⟨a.extend u, began⟩
    have posted := fun g mem => still (ih.1 g mem)
    have behind : new.after (uses ++ [u]) = (new.after uses).step u := List.foldl_append
    rw [behind]
    have steps := (new.after uses).steps u
    generalize (new.after uses).step u = y at steps
    cases steps with
    | arm seconds _ tells _ step =>
      subst step
      exact ⟨posted, fun _ _ => ⟨⟨uses, u, [], seconds, rfl, tells⟩, rfl⟩⟩
    | late _ _ step =>
      subst step
      exact ⟨posted, fun t due => still (ih.2 t due)⟩
    | stop _ step =>
      subst step
      exact ⟨posted, nofun⟩
    | pass _ _ _ timer expiries =>
      rw [expiries, timer]
      exact ⟨posted, fun t due => still (ih.2 t due)⟩
    | post t _ _ due _ timer expiries =>
      rw [expiries, timer, List.forall_mem_append, List.forall_mem_singleton]
      exact ⟨⟨posted, still (ih.2 t due)⟩, nofun⟩

/-- What is known of a timer that is used from its beginning on. -/
structure SingleShot (uses : List Use) : Prop where
  /-- An arming tells for how many seconds, or nothing if the timer was stopped. -/
  tells : ∀ u, u.arms = true →
    ((new.after uses).step u).timer.armed = (new.after uses).arms? u
  ordered : ∀ a b : Arming uses, a.earlier.length < b.earlier.length →
    a.generation < b.generation
  posts : ∀ a : Arming uses, a.due ≤ (new.after uses).now → ¬ a.Overtaken →
    (new.after uses).expiries.count a.generation = 1
  spares : ∀ a : Arming uses, (new.after uses).now < a.due ∨ a.Overtaken →
    a.generation ∉ (new.after uses).expiries
  origin : ∀ g ∈ (new.after uses).expiries, ∃ a : Arming uses, a.generation = g
  increasing : (new.after uses).expiries.Pairwise (· < ·)
  /-- As long as the timer is not stopped, the expiry of its last arming is the one that counts. -/
  current : .stop ∉ uses → ∀ a : Arming uses,
    (new.after uses).timer.isCurrent a.generation = true ↔ ∀ u ∈ a.later, u.arms = false
  alone : ((new.after uses).timer.posted.filter (new.after uses).timer.isCurrent).length ≤ 1
  /-- Nothing is posted behind a stop. -/
  silent : ∀ earlier later, uses = earlier ++ .stop :: later →
    (new.after uses).expiries = (new.after earlier).expiries
  /-- Behind a stop no expiry counts, and arming does nothing and tells nothing. -/
  refuses : .stop ∈ uses → (∀ g, (new.after uses).timer.isCurrent g = false) ∧
    ∀ u, u.arms = true →
      (new.after uses).step u = new.after uses ∧ ((new.after uses).step u).timer.armed = none

lemma armed_step (x : Service) (arms : u.arms = true) :
    (x.step u).timer.armed = x.arms? u := by
  cases x.steps u with
  | arm _ _ tells running step => rw [step, armed, if_neg (by simp [running]), tells]
  | late _ stopped step => rw [step, armed, arms?, if_pos stopped, if_pos stopped]
  | stop stops => cases stops ▸ arms
  | pass quiet | post _ quiet => exact absurd (.inl arms) quiet

lemma length_current_le_one (once : x.expiries.Nodup) :
    (x.timer.posted.filter x.timer.isCurrent).length ≤ 1 :=
  calc (x.timer.posted.filter x.timer.isCurrent).length
      = x.timer.posted.countP x.timer.isCurrent := List.countP_eq_length_filter.symm
    _ ≤ x.timer.posted.countP (· == x.timer.generation) :=
      List.countP_mono_left fun _ _ current => beq_iff_eq.mpr (Heartbeat.isCurrent_iff.mp current).2
    _ ≤ 1 := List.nodup_iff_count_le_one.mp once.of_append_right _

/-- However a timer is used, each arming runs out once, unless it is overtaken. -/
theorem single_shot (uses : List Use) : SingleShot uses := by
  have sound : (new.after uses).Sound := Sound.new.after uses
  have once : (new.after uses).expiries.Nodup := sound.increasing.imp Nat.ne_of_lt
  constructor
  case tells => exact fun u arms => armed_step _ arms
  case ordered => exact fun a b before => Arming.generation_lt before
  case posts =>
    intro a late kept
    exact List.count_eq_one_of_mem once (a.posted_iff.mpr ⟨late, kept⟩)
  case spares =>
    rintro a (early | overtaken) posted
    · exact Nat.not_le_of_lt early (a.posted_iff.mp posted).1
    · exact (a.posted_iff.mp posted).2 overtaken
  case origin => exact (exists_arming uses).1
  case increasing => exact sound.increasing
  case current => exact fun goes a => a.isCurrent_iff goes
  case alone => exact length_current_le_one once
  case silent =>
    rintro earlier later rfl
    exact (stopped_after earlier later).2
  case refuses =>
    intro stops
    obtain ⟨earlier, later, rfl⟩ := List.append_of_mem stops
    have stopped := (stopped_after earlier later).1
    refine ⟨fun g => by simp [Heartbeat.isCurrent, stopped], fun u arms => ?_⟩
    rw [armed_step _ arms, arms?, if_pos stopped]
    exact ⟨step_of_stopped stopped arms, rfl⟩

end Service

end SliceSelection.Lifecycle.Heartbeat
