import Mathlib.Algebra.Order.Group.Nat
import Mathlib.Data.List.DropRight
import Mathlib.Tactic.Ring
import SliceSelection.Proofs.Ingest.Coherence

/-!
# The interval in force

How long the poller waits depends on nothing but the number of polls that failed since the last one
that did not: the interval is the initial one doubled as often, or the greatest one if that is
shorter. Doubling step by step is the same as doubling at once, also where it leaves the range of
spans and the greatest interval takes its place. The exchange of a poll may take the initial
interval, however long the one in force is.
-/

namespace SliceSelection

/-! ### Spans and numbers -/

namespace Span

/-- The nanoseconds beyond the seconds are less than a second. -/
def IsProper (d : Span) : Prop := d.nanos.toNat < nanosPerSecond

instance (d : Span) : Decidable d.IsProper := inferInstanceAs (Decidable (_ < _))

variable {d e : Span} {n : Nat}

lemma isProper_ofSeconds (seconds : UInt64) : (ofSeconds seconds).IsProper := by
  simp [IsProper, ofSeconds, nanosPerSecond]

lemma toNanos_ofSeconds (seconds : UInt64) :
    (ofSeconds seconds).toNanos = nanosPerSecond * seconds.toNat := by
  simp [toNanos, ofSeconds]

/-- A number of nanoseconds is that of one span at most. -/
lemma eq_of_toNanos (proper : d.IsProper) (proper' : e.IsProper)
    (same : d.toNanos = e.toNanos) : d = e := by
  obtain ⟨seconds, nanos⟩ := d
  obtain ⟨seconds', nanos'⟩ := e
  simp only [IsProper, toNanos, nanosPerSecond] at proper proper' same
  have seconds_eq : seconds = seconds' := UInt64.toNat_inj.mp (by omega)
  have nanos_eq : nanos = nanos' := UInt32.toNat_inj.mp (by omega)
  rw [seconds_eq, nanos_eq]

lemma toNanos_lt (proper : d.IsProper) : d.toNanos < nanosPerSecond * UInt64.size := by
  have seconds : d.seconds.toNat < UInt64.size := d.seconds.toNat_lt_size
  simp only [IsProper, toNanos, nanosPerSecond, UInt64.size] at *
  omega

lemma ofNanos?_eq_none_iff : ofNanos? n = none ↔ nanosPerSecond * UInt64.size ≤ n := by
  rw [ofNanos?, ite_eq_right_iff, ← Nat.not_lt, Nat.mul_comm, ← Nat.div_lt_iff_lt_mul (by decide)]
  simp

lemma toNanos_of_ofNanos? (some : ofNanos? n = some d) : d.IsProper ∧ d.toNanos = n := by
  rw [ofNanos?, Option.ite_none_right_eq_some] at some
  obtain ⟨short, some⟩ := some
  cases some
  have seconds : (UInt64.ofNat (n / nanosPerSecond)).toNat = n / nanosPerSecond :=
    UInt64.toNat_ofNat_of_lt' short
  have rest : n % nanosPerSecond < nanosPerSecond := Nat.mod_lt n (by decide)
  have nanos : (UInt32.ofNat (n % nanosPerSecond)).toNat = n % nanosPerSecond :=
    UInt32.toNat_ofNat_of_lt' (rest.trans (by decide))
  refine ⟨nanos.trans_lt rest, ?_⟩
  rw [toNanos, seconds, nanos, Nat.div_add_mod]

lemma toNanos_shorter : (d.shorter e).toNanos = min d.toNanos e.toNanos := by
  unfold shorter
  split <;> omega

lemma isProper_shorter (proper : d.IsProper) (proper' : e.IsProper) : (d.shorter e).IsProper := by
  unfold shorter
  split <;> assumption

end Span

namespace Polling

/-! ### One failure -/

section NextInterval

variable {current max : Span}

/-- What is out of the range of spans is longer than any span, so a doubled interval that can not be
told gives way to the greatest one like every other that is too long. -/
lemma toNanos_nextInterval (proper : max.IsProper) :
    (nextInterval current max).toNanos = min (2 * current.toNanos) max.toNanos := by
  unfold nextInterval
  cases doubled : current.double? with
  | some d => rw [Span.toNanos_shorter, (Span.toNanos_of_ofNanos? doubled).2]
  | none =>
    have long := Span.ofNanos?_eq_none_iff.mp doubled
    exact (min_eq_right ((Span.toNanos_lt proper).le.trans long)).symm

lemma isProper_nextInterval (proper : max.IsProper) : (nextInterval current max).IsProper := by
  unfold nextInterval
  cases doubled : current.double? with
  | some d => exact Span.isProper_shorter (Span.toNanos_of_ofNanos? doubled).1 proper
  | none => exact proper

end NextInterval

/-! ### Many polls -/

/-- What a poll turned out to be. -/
inductive Turnout where
  | failure | success
deriving DecidableEq, Repr

/-- The number of failures behind the last success. -/
def failuresIn (polls : List Turnout) : Nat := (polls.rtakeWhile (· = .failure)).length

lemma failuresIn_concat_failure (polls : List Turnout) :
    failuresIn (polls ++ [.failure]) = failuresIn polls + 1 := by
  rw [failuresIn, List.rtakeWhile_concat_pos _ _ _ (by simp), List.length_append]
  rfl

lemma failuresIn_concat_success (polls : List Turnout) : failuresIn (polls ++ [.success]) = 0 := by
  rw [failuresIn, List.rtakeWhile_concat_neg _ _ _ (by simp), List.length_nil]

lemma failuresIn_append_replicate (polls : List Turnout) (n : Nat) :
    failuresIn (polls ++ List.replicate n .failure) = failuresIn polls + n := by
  induction n with
  | zero => simp
  | succ n ih =>
    rw [List.replicate_succ', ← List.append_assoc, failuresIn_concat_failure, ih, Nat.add_assoc]

namespace Backoff

def step (b : Backoff) : Turnout → Backoff
  | .failure => b.onFailure
  | .success => b.onSuccess

def after (b : Backoff) (polls : List Turnout) : Backoff := polls.foldl step b

variable {b : Backoff} {initial max : Span} {polls : List Turnout}

lemma after_concat (t : Turnout) : b.after (polls ++ [t]) = (b.after polls).step t :=
  List.foldl_concat ..

lemma initial_after (polls : List Turnout) : (b.after polls).initial = b.initial := by
  induction polls using List.reverseRecOn with
  | nil => rfl
  | append_singleton polls t ih =>
    rw [after_concat, ← ih]
    cases t <;> rfl

lemma max_after (polls : List Turnout) : (b.after polls).max = b.max := by
  induction polls using List.reverseRecOn with
  | nil => rfl
  | append_singleton polls t ih =>
    rw [after_concat, ← ih]
    cases t <;> rfl

lemma current_concat_success :
    ((ofBounds initial max).after (polls ++ [.success])).current = initial := by
  rw [after_concat]
  exact initial_after polls

lemma current_concat_failure :
    ((ofBounds initial max).after (polls ++ [.failure])).current =
      nextInterval ((ofBounds initial max).after polls).current max := by
  have longest : ((ofBounds initial max).after polls).max = max := max_after polls
  rw [after_concat, step, onFailure, longest]

end Backoff

/-- The interval behind a number of failures: the initial one if there were none, and else the
initial one doubled as often, but at most the greatest one. -/
structure IsDoubled (initial max current : Span) (failures : Nat) : Prop where
  proper : current.IsProper
  rested : failures = 0 → current = initial
  doubled : failures ≠ 0 → current.toNanos = min (initial.toNanos * 2 ^ failures) max.toNanos

section IsDoubled

variable {initial max current : Span} {n m : Nat}

/-- One more failure doubles once more. -/
lemma IsDoubled.next (doubled : IsDoubled initial max current n) (longest : max.IsProper) :
    IsDoubled initial max (nextInterval current max) (n + 1) := by
  refine ⟨isProper_nextInterval longest, fun none => absurd none n.succ_ne_zero, fun _ => ?_⟩
  rw [toNanos_nextInterval longest]
  obtain rfl | some := eq_or_ne n 0
  · rw [doubled.rested rfl, Nat.mul_comm, Nat.zero_add, Nat.pow_one]
  · -- An interval that was cut to the greatest one is cut to it again.
    have double : initial.toNanos * 2 ^ (n + 1) = 2 * (initial.toNanos * 2 ^ n) := by ring
    rw [doubled.doubled some, double]
    omega

lemma isDoubled_after (shortest : initial.IsProper) (longest : max.IsProper)
    (polls : List Turnout) :
    IsDoubled initial max ((Backoff.ofBounds initial max).after polls).current
      (failuresIn polls) := by
  induction polls using List.reverseRecOn with
  | nil => exact ⟨shortest, fun _ => rfl, fun some => absurd rfl some⟩
  | append_singleton polls t ih =>
    cases t with
    | failure =>
      rw [Backoff.current_concat_failure, failuresIn_concat_failure]
      exact ih.next longest
    | success =>
      rw [Backoff.current_concat_success, failuresIn_concat_success]
      exact ⟨shortest, fun _ => rfl, fun some => absurd rfl some⟩

/-- Only one interval is the one behind a number of failures. -/
lemma IsDoubled.unique {other : Span} (doubled : IsDoubled initial max current n)
    (doubled' : IsDoubled initial max other n) : other = current := by
  obtain rfl | some := eq_or_ne n 0
  · rw [doubled.rested rfl, doubled'.rested rfl]
  · refine Span.eq_of_toNanos doubled'.proper doubled.proper ?_
    rw [doubled.doubled some, doubled'.doubled some]

/-- Where the greatest interval is not shorter than the initial one, the number of failures needs no
case of its own. -/
lemma IsDoubled.toNanos_eq (doubled : IsDoubled initial max current n)
    (ordered : initial.toNanos ≤ max.toNanos) :
    current.toNanos = min (initial.toNanos * 2 ^ n) max.toNanos := by
  obtain rfl | some := eq_or_ne n 0
  · rw [doubled.rested rfl, Nat.pow_zero, Nat.mul_one, min_eq_left ordered]
  · exact doubled.doubled some

lemma IsDoubled.within (doubled : IsDoubled initial max current n)
    (ordered : initial.toNanos ≤ max.toNanos) :
    initial.toNanos ≤ current.toNanos ∧ current.toNanos ≤ max.toNanos := by
  rw [doubled.toNanos_eq ordered]
  exact ⟨le_min (Nat.le_mul_of_pos_right _ (Nat.two_pow_pos n)) ordered, min_le_right _ _⟩

/-- More failures do not shorten the interval. -/
lemma IsDoubled.mono {later : Span} (doubled : IsDoubled initial max current n)
    (ordered : initial.toNanos ≤ max.toNanos) (doubled' : IsDoubled initial max later m)
    (more : n ≤ m) : current.toNanos ≤ later.toNanos := by
  rw [doubled.toNanos_eq ordered, doubled'.toNanos_eq ordered]
  exact min_le_min_right _ (Nat.mul_le_mul_left _ (Nat.pow_le_pow_right (by decide) more))

end IsDoubled

/-! ### Intervals that were set -/

/-- The interval moves between the bounds, and no failure shortens it. -/
structure Backoff.IsModerate (b : Backoff) (polls : List Turnout) : Prop where
  atLeast : b.initial.toNanos ≤ (b.after polls).current.toNanos
  atMost : (b.after polls).current.toNanos ≤ b.max.toNanos
  positive : 0 < (b.after polls).current.toNanos
  rises : ∀ failures, (b.after polls).current.toNanos ≤
    (b.after (polls ++ .replicate failures .failure)).current.toNanos

lemma ordered_of_objection {s : Settings} (fine : s.objection = none) :
    0 < s.polling.initial.toNat ∧ s.polling.initial.toNat ≤ s.polling.max.toNat := by
  unfold Settings.objection at fine
  split at fine
  · cases fine
  split at fine
  · cases fine
  split at fine
  · cases fine
  · next ordered =>
    rw [Bool.or_eq_true, decide_eq_true_eq, decide_eq_true_eq, not_or, UInt64.not_lt,
      UInt64.le_iff_toNat_le, ← UInt64.toNat_inj] at ordered
    exact ⟨Nat.pos_of_ne_zero ordered.1, ordered.2⟩

lemma isModerate_of_check {s t : Settings} (checked : s.check = .ok t) (polls : List Turnout) :
    t.backoff.IsModerate polls := by
  obtain ⟨fine, rfl⟩ := Settings.objection_of_check checked
  obtain ⟨positive, ordered⟩ := ordered_of_objection fine
  have doubled := isDoubled_after (Span.isProper_ofSeconds t.polling.initial)
    (Span.isProper_ofSeconds t.polling.max)
  have some : 0 < (Span.ofSeconds t.polling.initial).toNanos := by
    rw [Span.toNanos_ofSeconds]
    exact Nat.mul_pos (by decide) positive
  have ordered : (Span.ofSeconds t.polling.initial).toNanos ≤
      (Span.ofSeconds t.polling.max).toNanos := by
    rw [Span.toNanos_ofSeconds, Span.toNanos_ofSeconds]
    exact Nat.mul_le_mul_left _ ordered
  obtain ⟨atLeast, atMost⟩ := (doubled polls).within ordered
  refine ⟨atLeast, atMost, some.trans_le atLeast, fun failures => ?_⟩
  refine (doubled polls).mono ordered (doubled _) ?_
  rw [failuresIn_append_replicate]
  exact Nat.le_add_right _ _

/-! ### Sessions -/

/-- What the poll turned out to be that came to an end, if one did. -/
def Event.turnout? : Event → Option Turnout
  | poll exchange => some (if (fetched exchange).toBool then .success else .failure)
  | read => none

/-- What polls turned out to be, in their order. -/
def pollsIn (events : List Event) : List Turnout := events.filterMap Event.turnout?

lemma Session.backoff_after (x : Session) (events : List Event) :
    (x.after events).poller.backoff = x.poller.backoff.after (pollsIn events) := by
  induction events generalizing x with
  | nil => rfl
  | cons e events ih =>
    have behind : (x.after (e :: events)).poller.backoff =
        (x.step e).poller.backoff.after (pollsIn events) := ih (x.step e)
    rw [behind]
    cases e with
    | read => rfl
    | poll exchange =>
      cases result : fetched exchange with
      | error e => simp [step, Poller.poll_of_error result, pollsIn, Event.turnout?, result,
          Except.toBool, Backoff.after, Backoff.step]
      | ok list => simp [step, Poller.poll_of_ok result, pollsIn, Event.turnout?, result,
          Except.toBool, Backoff.after, Backoff.step]

/-- However long the interval in force is, an exchange may take the initial one. -/
lemma Session.clientConfig_after (x : Session) (events : List Event) :
    (x.after events).poller.clientConfig = x.poller.clientConfig := by
  have initial : (x.after events).poller.backoff.initial = x.poller.backoff.initial := by
    rw [backoff_after, Backoff.initial_after]
  rw [Poller.clientConfig, Poller.clientConfig, initial]

/-- A peer that takes longer than the initial interval brings no list. -/
theorem Session.fetched_of_late (x : Session) (events : List Event)
    {peer : Http.Outgoing → Span × Http.Reply}
    (late : ∀ o, x.poller.backoff.initial.toNanos < (peer o).1.toNanos) :
    ∃ e, fetched ((x.after events).poller.exchange peer) = .error (.transport e) := by
  rw [Poller.exchange, Http.send, clientConfig_after]
  cases (x.after events).poller.request.check with
  | error e => exact ⟨e, rfl⟩
  | ok o =>
    have silent : x.poller.clientConfig.await (peer o).1 (peer o).2 = .silent :=
      if_neg (Nat.not_le.mpr (late o))
    exact ⟨.timeout, congrArg (fun reply => fetched (Http.Reply.toResponse reply)) silent⟩

/-- What is known of the interval that moves between two bounds. -/
structure Doubling (initial max : Span) : Prop where
  closed : ∀ polls, IsDoubled initial max ((Backoff.ofBounds initial max).after polls).current
    (failuresIn polls)
  /-- The closed form leaves nothing open. -/
  only : ∀ polls interval, IsDoubled initial max interval (failuresIn polls) →
    interval = ((Backoff.ofBounds initial max).after polls).current
  /-- The poller waits so long behind the polls of a session. -/
  waits : ∀ base store events,
    ((Session.ofStore base (.ofBounds initial max) store).after events).poller.backoff =
      (Backoff.ofBounds initial max).after (pollsIn events)
  /-- Settings that pass their check set bounds between which the interval moves. -/
  moderate : ∀ s t, Settings.check s = .ok t → t.backoff = .ofBounds initial max →
    ∀ polls, (Backoff.ofBounds initial max).IsModerate polls

/-- The interval between two polls is the initial one, doubled once for each failure behind the last
success, and at most the greatest one. -/
theorem doubling {initial max : Span} (shortest : initial.IsProper) (longest : max.IsProper) :
    Doubling initial max := by
  constructor
  case closed => exact isDoubled_after shortest longest
  case only =>
    intro polls interval doubled
    exact (isDoubled_after shortest longest polls).unique doubled
  case waits =>
    intro base store events
    exact Session.backoff_after _ events
  case moderate =>
    intro s t checked bounds polls
    exact bounds ▸ isModerate_of_check checked polls

/-- Settings under which one doubling leaves the range of spans. -/
def longIntervals : Settings :=
  { oneNetwork with
    streams := false
    webuiUri := some "http://webui:5000"
    polling := ⟨0x8000000000000000, 0xFFFFFFFFFFFFFFFF⟩ }

/-- Twice the initial interval is out of range, so behind one failure the greatest is in force. -/
theorem doubling_outOfRange :
    let initial := Span.ofSeconds 0x8000000000000000
    let max := Span.ofSeconds 0xFFFFFFFFFFFFFFFF
    initial.IsProper ∧ max.IsProper ∧ longIntervals.check = .ok longIntervals ∧
      longIntervals.backoff = .ofBounds initial max ∧ initial.double? = none ∧
      ((Backoff.ofBounds initial max).after [.failure]).current = max ∧ Doubling initial max :=
  ⟨by decide, by decide, rfl, rfl, by decide, by decide, doubling (by decide) (by decide)⟩

end Polling

end SliceSelection
