import SliceSelection.Proofs.Lifecycle.Progress

/-!
# Announcing the networks that were published

Behind the first registration what is unread is taken by a registration with the networks in the
store, and by nothing else. So the last attempt is never older than the last list that was read,
and lists that are published while a notice is being handled are announced by one registration as
soon as the handling is over.
-/

namespace SliceSelection.Lifecycle

open Registry

/-- A registration with other networks begins. -/
def Moment.Announces (m : Moment) (p : Profile) : Prop :=
  m.after.stage = .registering .plmnChange p ∧ m.Registers p

namespace Coordinator

variable {c c' : Coordinator} {e : Event} {calls : List Call}

/-- The announced networks are taken: a registration with those in the store begins. -/
structure Hears (c : Coordinator) (c' : Coordinator) (calls : List Call) : Prop where
  listening : c.stage = .listening
  unread : c.board.channel.unread = true
  board : c'.board = c.readBoard
  stage : c'.stage = .registering .plmnChange c.announcement
  calls : calls = [.register c.self.identity c.announcement]
  now : c'.now = c.now
  timer : c'.timer = c.timer

/-- The channel is given up only when it is closed and nothing in it is unread. -/
def MissesNothing (c : Coordinator) : Prop :=
  c.hearing = false → c.board.channel.closed = true ∧ c.board.channel.unread = false

lemma acts_of_unread (stage : c.stage = .listening) (going : c.cancelled = false)
    (hearing : c.hearing = true) (unread : c.board.channel.unread = true) :
    c.act.isSome = true := by
  simp [act, stage, listen, going, hearing, unread]

namespace Rule

/-- Where something is unread, the coordinator that listens takes it next. -/
lemma hears (rule : Rule c e c' calls) (own : e.isBoard = false) (stage : c.stage = .listening)
    (hearing : c.hearing = true) (unread : c.board.channel.unread = true)
    (state : c.self.state.isFinal = false) (going : c.cancelled = false) :
    e = .cancel ∨ e = .act ∧ Hears c c' calls := by
  have acts := acts_of_unread stage going hearing unread
  -- All other rules of listening want the channel to be quiet, and time waits for the coordinator.
  cases rule with
  | hear => exact .inr ⟨rfl, stage, unread, rfl, rfl, rfl, rfl, rfl⟩
  | board => cases own
  | cancel => exact .inl rfl
  | elapse may | approach may => exact absurd may (by simp [mayPass_of_act acts])
  | stop _ cancelled => exact absurd going (by simp [cancelled])
  | disregard _ _ _ _ final => exact absurd final (by simp [state])
  | deafen _ _ _ read _ => exact absurd read (by simp [unread])
  | beat _ _ quiet | ignore _ _ quiet => exact absurd (quiet hearing).1 (by simp [unread])
  | boot other | retry other | giveUp other | accepted other | refusedBoot other
  | refusedChange other | refusedAgain other | kept other | lost other | deregister other
  | deregistered other => exact absurd (stage.symm.trans other) (by simp)

/-- Behind the first registration nothing else takes what is unread. -/
lemma unread (rule : Rule c e c' calls) (own : e.isBoard = false)
    (booted : c.stage.isBooting = false) (state : c.self.state.isFinal = false) :
    Hears c c' calls ∨ c'.board = c.board ∧ ∀ i p, .register i p ∈ calls →
      c'.stage ≠ .registering .plmnChange p := by
  cases rule with
  | hear stage _ _ unread => exact .inl ⟨stage, unread, rfl, rfl, rfl, rfl, rfl⟩
  | board => cases own
  | boot stage | retry stage | refusedBoot stage => simp [stage, Stage.isBooting] at booted
  | disregard _ _ _ _ final => exact absurd final (by simp [state])
  | @accepted t sent _ stage =>
    cases t with
    | boot => simp [stage, Stage.isBooting] at booted
    | plmnChange | lostHeartbeat => exact .inr ⟨rfl, by simp⟩
  | _ => exact .inr ⟨rfl, by simp⟩

lemma missesNothing (rule : Rule c e c' calls) (own : e.isBoard = false)
    (h : c.MissesNothing) : c'.MissesNothing := by
  cases rule with
  | board => cases own
  | hear | disregard => exact fun deaf => ⟨(h deaf).1, rfl⟩
  | deafen _ _ _ read closed => exact fun _ => ⟨closed, read⟩
  | @accepted t =>
    cases t with
    | boot => exact fun deaf => ⟨(h deaf).1, rfl⟩
    | plmnChange | lostHeartbeat => exact h
  | _ => exact h

end Rule

lemma act_of_unread (stage : c.stage = .listening) (going : c.cancelled = false)
    (hearing : c.hearing = true) (unread : c.board.channel.unread = true)
    (state : c.self.state.isFinal = false) :
    ∃ c' calls, c.act = some (c', calls) ∧ Hears c c' calls := by
  obtain ⟨⟨c', calls⟩, acts⟩ :=
    Option.isSome_iff_exists.mp (acts_of_unread stage going hearing unread)
  have rule : Rule c .act c' calls := .of_step acts
  rcases rule.hears rfl stage hearing unread state going with cancel | ⟨-, hears⟩
  · cases cancel
  · exact ⟨c', calls, acts, hears⟩

end Coordinator

variable {s s' s₁ t : System} {h : Happening} {calls : List Call}
  {earlier later history : List Moment} {m : Moment} {sent : Profile} {self : Instance}
  {store : SliceConfig} {retryDelay : Nat}

lemma Coordinator.Hears.announces
    (hears : Coordinator.Hears s.toCoordinator s'.toCoordinator calls) :
    (Moment.mk s h calls s').Announces s.announcement :=
  ⟨hears.stage, s.self.identity, by simp [hears.calls]⟩

/-- A change of a steady system publishes a list, takes what is unread, or leaves the channel
alone. -/
lemma Change.channel (change : Change s h s' calls) (steady : s.IsSteady) :
    (s'.board.channel.unread = true ∧ (Moment.mk s h calls s').published?.isSome = true) ∨
    (Moment.mk s h calls s').published? = none ∧
      (Coordinator.Hears s.toCoordinator s'.toCoordinator calls ∨
        s'.board.channel.unread = s.board.channel.unread ∧
          ∀ p, ¬ (Moment.mk s h calls s').Announces p) := by
  cases change with
  | repeated _ same =>
    exact .inr ⟨by simp [Moment.published?, Applier.apply, same],
      .inr ⟨rfl, by simp [Moment.Announces, Moment.Registers]⟩⟩
  | moved _ fresh same =>
    exact .inr ⟨by simp [Moment.published?, Applier.apply, fresh, same],
      .inr ⟨rfl, by simp [Moment.Announces, Moment.Registers]⟩⟩
  | published _ fresh other =>
    exact .inl ⟨rfl, by simp [Moment.published?, Applier.apply, fresh, other]⟩
  | close =>
    exact .inr ⟨rfl, .inr ⟨rfl, by simp [Moment.Announces, Moment.Registers]⟩⟩
  | event own rule =>
    refine .inr ⟨rfl, ?_⟩
    refine (rule.unread own steady.booted (steady.consistent.unfinished steady.going)).imp_right ?_
    rintro ⟨board, other⟩
    refine ⟨by simp only [board], ?_⟩
    rintro p ⟨stage, i, begins⟩
    exact other i p begins stage

/-- A registration with other networks begins while the coordinator listens, and takes what is
unread. -/
lemma Change.hears (change : Change s h s' calls) {p : Profile}
    (announces : (Moment.mk s h calls s').Announces p) :
    Coordinator.Hears s.toCoordinator s'.toCoordinator calls := by
  obtain ⟨stage, i, begins⟩ := announces
  cases change with
  | event own rule =>
    cases rule with
    | hear listening _ _ unread => exact ⟨listening, unread, rfl, rfl, rfl, rfl, rfl⟩
    | boot | retry | lost => cases stage
    | _ => simp at begins
  | _ => simp at begins

/-- What was unread, or was published since, stays unread until a registration with other networks
begins. -/
lemma Run.unread (run : Run s₁ later s) (steady : s₁.IsSteady) (going : s.cancelled = false)
    (other : ∀ x ∈ later, ∀ p, ¬ x.Announces p)
    (news : s₁.board.channel.unread = true ∨ publishedIn later ≠ []) :
    s.board.channel.unread = true := by
  induction run with
  | start => exact news.resolve_right (by simp [publishedIn])
  | next run step ih =>
    have change := Change.of_step step
    have going := change.going going
    rw [List.forall_mem_cons] at other
    rcases change.channel (run.stays_steady steady going) with ⟨unread, -⟩ | ⟨quiet, hears | same⟩
    · exact unread
    · exact absurd hears.announces (other.1 _)
    · rw [publishedIn_cons_of_none quiet] at news
      rw [same.1]
      exact ih going other.2 news

/-- Where nothing was unread and nothing was published since, nothing is unread. -/
lemma Run.read (run : Run s₁ later s) (steady : s₁.IsSteady) (going : s.cancelled = false)
    (read : s₁.board.channel.unread = false) (quiet : publishedIn later = []) :
    s.board.channel.unread = false := by
  induction run with
  | start => exact read
  | next run step ih =>
    have change := Change.of_step step
    have going := change.going going
    rcases change.channel (run.stays_steady steady going) with ⟨-, news⟩ | ⟨silent, hears | same⟩
    · obtain ⟨ps, news⟩ := Option.isSome_iff_exists.mp news
      simp [publishedIn, news] at quiet
    · rw [hears.board]
      rfl
    · rw [publishedIn_cons_of_none silent] at quiet
      rw [same.1]
      exact ih going quiet

/-- The channel is given up only when it is closed and nothing in it is unread. -/
lemma Change.missesNothing (change : Change s h s' calls) (missesNothing : s.MissesNothing) :
    s'.MissesNothing := by
  cases change with
  | repeated | moved => exact missesNothing
  | published hears => exact fun deaf => absurd (missesNothing deaf).1 (by simp [hears])
  | close => exact fun deaf => ⟨rfl, (missesNothing deaf).2⟩
  | event own rule => exact rule.missesNothing own missesNothing

lemma Run.missesNothing (run : Run (.ofInstance self store retryDelay) history s) :
    s.MissesNothing :=
  run.keeps Change.missesNothing fun deaf => by cases deaf

/-! ### The last attempt -/

/-- The last attempt of a history began behind the last publication, and carries the networks in
the store. -/
def LastAttemptAnnounces (later : List Moment) (s : System) : Prop :=
  ∃ newer x older p, later = newer ++ x :: older ∧ x.Registers p ∧
    (∀ y ∈ newer, ∀ q, ¬ y.Registers q) ∧ publishedIn newer = [] ∧
    p.announced = s.board.store.plmns

/-- What was published is unread, or the last attempt announces it. -/
lemma Run.lastAttempt (run : Run s₁ later s) (steady : s₁.IsSteady) (going : s.cancelled = false)
    (news : publishedIn later ≠ []) :
    s.board.channel.unread = true ∨ LastAttemptAnnounces later s := by
  induction run with
  | start => exact absurd rfl news
  | @next later s s' h calls run step ih =>
    have change := Change.of_step step
    have going := change.going going
    -- An attempt that begins now is the last one; else the last one is that of before, and it was
    -- begun behind the last publication unless something is unread.
    by_cases begins : ∃ p, (Moment.mk s h calls s').Registers p
    · obtain ⟨p, i, begins⟩ := begins
      obtain ⟨carried, kept⟩ := change.announced begins
      exact .inr ⟨[], _, later, p, rfl, ⟨i, begins⟩, by simp, rfl, by rw [carried, kept]⟩
    · have none : ∀ p, ¬ (Moment.mk s h calls s').Registers p := not_exists.mp begins
      rcases change.channel (run.stays_steady steady going) with ⟨unread, -⟩ | ⟨quiet, hears | same⟩
      · exact .inl unread
      · exact absurd hears.announces.2 (none s.announcement)
      · rw [publishedIn_cons_of_none quiet] at news
        have plmns : s'.board.store.plmns = s.board.store.plmns := by
          rw [change.plmns, quiet, Option.getD_none]
        refine (ih going news).imp same.1.trans ?_
        rintro ⟨newer, x, older, p, rfl, begun, last, silent, carried⟩
        refine ⟨_ :: newer, x, older, p, rfl, begun, ?_, ?_, carried.trans plmns.symm⟩
        · exact List.forall_mem_cons.mpr ⟨none, last⟩
        · rw [publishedIn_cons_of_none quiet, silent]

/-! ### Bursts -/

/-- The moments `last :: inner`, the last one first, are the handling of the notice that was taken
at the moment `first`: a call began there, and the coordinator listens again behind `last`. -/
structure Handling (first : Moment) (inner : List Moment) (last : Moment) : Prop where
  takes : first.before.stage = .listening
  begins : first.calls ≠ []
  busy : ∀ x ∈ last :: inner, x.before.stage ≠ .listening
  listens : last.after.stage = .listening

/-- Nothing was done since, and to register with the networks in the store is what is done next. -/
structure AnnouncesNext (since : System) (after : List Moment) (s : System) : Prop where
  waits : ∀ x ∈ after, x.happening.isOwn = false
  stage : s.stage = .listening
  unread : s.board.channel.unread = true
  now : s.now = since.now
  timer : s.timer = since.timer
  next : ∃ c, s.act = some (c, [.register s.self.identity s.announcement]) ∧
    c.stage = .registering .plmnChange s.announcement

/-- The first thing that was done since is to register with the networks in the store. -/
structure AnnouncedFirst (since : System) (older : List Moment) (x : Moment) : Prop where
  waits : ∀ y ∈ older, y.happening.isOwn = false
  announces : ∃ p, x.Announces p ∧ p.announced = x.before.board.store.plmns
  now : x.before.now = since.now
  timer : x.before.timer = since.timer

lemma Coordinator.MissesNothing.hearing {c : Coordinator} (h : c.MissesNothing)
    (unread : c.board.channel.unread = true) : c.hearing = true := by
  cases hearing : c.hearing
  · exact absurd (h hearing).2 (by simp [unread])
  · rfl

lemma System.IsSteady.announcesNext (steady : s.IsSteady) (missesNothing : s.MissesNothing)
    (waits : ∀ x ∈ later, x.happening.isOwn = false) (stage : s.stage = .listening)
    (unread : s.board.channel.unread = true) (now : s.now = t.now) (timer : s.timer = t.timer) :
    AnnouncesNext t later s := by
  obtain ⟨c, calls, acts, hears⟩ := Coordinator.act_of_unread stage steady.going
    (missesNothing.hearing unread) unread (steady.consistent.unfinished steady.going)
  exact ⟨waits, stage, unread, now, timer, c, hears.calls ▸ acts, hears.stage⟩

/-- What can happen next is from outside, or it is the announcement. -/
lemma AnnouncesNext.change (next : AnnouncesNext t later s) (change : Change s h s' calls)
    (steady : s.IsSteady) (going : s'.cancelled = false) (missesNothing : s.MissesNothing) :
    AnnouncesNext t (⟨s, h, calls, s'⟩ :: later) s' ∨ AnnouncedFirst t later ⟨s, h, calls, s'⟩ := by
  obtain ⟨waits, stage, unread, now, timer, -⟩ := next
  have steady' := change.steady steady going
  have missesNothing' := change.missesNothing missesNothing
  cases change with
  | repeated | moved | close =>
    exact .inl (steady'.announcesNext missesNothing' (List.forall_mem_cons.mpr ⟨rfl, waits⟩) stage
      unread now timer)
  | published =>
    exact .inl (steady'.announcesNext missesNothing' (List.forall_mem_cons.mpr ⟨rfl, waits⟩) stage
      rfl now timer)
  | event own rule =>
    rcases rule.hears own stage (missesNothing.hearing unread) unread
      (steady.consistent.unfinished steady.going) steady.going with rfl | ⟨rfl, hears⟩
    · cases rule
      cases going
    · exact .inr ⟨waits, ⟨s.announcement, hears.announces, by simp⟩, now, timer⟩

/-- Where something is unread while the coordinator listens, it is announced before anything else
is done. -/
lemma Run.announces (run : Run t later s) (steady : t.IsSteady) (going : s.cancelled = false)
    (missesNothing : t.MissesNothing) (stage : t.stage = .listening)
    (unread : t.board.channel.unread = true) :
    AnnouncesNext t later s ∨
      ∃ newer x older, later = newer ++ x :: older ∧ AnnouncedFirst t older x := by
  induction run with
  | start => exact .inl (steady.announcesNext missesNothing (by simp) stage unread rfl rfl)
  | next run step ih =>
    have change := Change.of_step step
    rcases ih (change.going going) with next | ⟨newer, x, older, rfl, first⟩
    · rcases next.change change (run.stays_steady steady (change.going going)) going
        (run.keeps Change.missesNothing missesNothing) with next | first
      · exact .inl next
      · exact .inr ⟨[], _, _, rfl, first⟩
    · exact .inr ⟨_ :: newer, x, older, rfl, first⟩

/-- Two registrations with other networks do not follow one another without a publication in
between. -/
lemma Run.announces_once {between older : List Moment} {x y : Moment} {newest : List Moment}
    {p q : Profile} (run : Run t (newest ++ y :: (between ++ x :: older)) s) (steady : t.IsSteady)
    (going : s.cancelled = false) (first : x.Announces p) (second : y.Announces q) :
    publishedIn between ≠ [] := by
  intro quiet
  obtain ⟨before, again, behind⟩ := run.at_moment
  have going := again.going (behind.going going)
  obtain ⟨opening, change, between⟩ := before.at_moment
  have steady := change.steady (opening.stays_steady steady (change.going (between.going going)))
    (between.going going)
  have read : x.after.board.channel.unread = false := by
    rw [(change.hears first).board]
    rfl
  exact absurd (again.hears second).unread (by simp [between.read steady going read quiet])

/-- What is published while a notice is being handled is announced by one registration when the
handling is over, before anything else is done. -/
lemma Run.burst {after inner before : List Moment} {last first : Moment}
    (run : Run s₁ (after ++ last :: (inner ++ first :: before)) s) (steady : s₁.IsSteady)
    (going : s.cancelled = false) (missesNothing : s₁.MissesNothing)
    (handling : Handling first inner last) (news : publishedIn (last :: inner) ≠ []) :
    AnnouncesNext last.after after s ∨
      ∃ newer x older, after = newer ++ x :: older ∧ AnnouncedFirst last.after older x ∧
        ∀ newest y between q, newer = newest ++ y :: between → y.Announces q →
          publishedIn between ≠ [] := by
  obtain ⟨handled, behind⟩ := run.cut
  have goingLast := behind.going going
  rw [← List.cons_append] at handled
  obtain ⟨opening, change, meanwhile⟩ := handled.at_moment
  have steadyFirst := change.steady
    (opening.stays_steady steady (change.going (meanwhile.going goingLast)))
    (meanwhile.going goingLast)
  have unread : last.after.board.channel.unread = true := by
    apply meanwhile.unread steadyFirst goingLast _ (.inr news)
    intro x mem p announces
    exact handling.busy x mem ((meanwhile.change mem).hears announces).listening
  have steadyLast := meanwhile.stays_steady steadyFirst goingLast
  rcases behind.announces steadyLast going (handled.keeps Change.missesNothing missesNothing)
    handling.listens unread with next | ⟨newer, x, older, rfl, first⟩
  · exact .inl next
  · refine .inr ⟨newer, x, older, rfl, first, ?_⟩
    rintro newest y between q rfl second
    obtain ⟨p, announces, -⟩ := first.announces
    rw [List.append_assoc, List.cons_append] at behind
    exact behind.announces_once steadyLast going announces second

/-- How published networks are announced in a run: `later` is its history behind the acceptance of
the first registration. All of it holds as well when the channel is closed behind the last
publication. -/
structure Announcing (later : List Moment) (s : System) : Prop where
  /-- When something was published and nothing is unread, the last attempt announces it. -/
  last : publishedIn later ≠ [] → s.board.channel.unread = false → LastAttemptAnnounces later s
  /-- What was published while a notice was being handled is announced by one registration. -/
  burst : ∀ after last inner first before, later = after ++ last :: (inner ++ first :: before) →
    Handling first inner last → publishedIn (last :: inner) ≠ [] →
    AnnouncesNext last.after after s ∨
      ∃ newer x older, after = newer ++ x :: older ∧ AnnouncedFirst last.after older x ∧
        ∀ newest y between q, newer = newest ++ y :: between → y.Announces q →
          publishedIn between ≠ []
  /-- What is unread is delivered. -/
  delivered : s.stage = .listening → s.board.channel.unread = true → AnnouncesNext s [] s
  /-- When nothing is unread, heartbeats go on. -/
  beats : s.stage = .listening → s.board.channel.unread = false → HeartbeatAlone s

/-- Behind the first registration no published list is lost until shutdown, and bursts are
announced at once. -/
theorem announcing (boot : Run (.ofInstance self store retryDelay) (m :: earlier) s₁)
    (accepted : m.AcceptsBoot sent) (run : Run s₁ later s) (going : s.cancelled = false) :
    Announcing later s := by
  have first := boot.steady accepted (run.going going)
  have steady := run.stays_steady first going
  have one := run.live first going (boot.live_boot accepted)
  refine ⟨?_, ?_, ?_, steady.heartbeat_of_read one⟩
  · intro news read
    exact (run.lastAttempt first going news).resolve_left (by simp [read])
  · rintro after last inner first' before rfl handling news
    exact run.burst first going boot.missesNothing handling news
  · intro stage unread
    exact steady.announcesNext (boot.append run).missesNothing (by simp) stage unread rfl rfl

/-- While the first heartbeat is under way two lists are published and the channel is closed; they
are announced as soon as the heartbeat is answered. -/
def overtakenHeartbeat : List Happening :=
  [.event .act, .event (.answer (.update (.success none))), .close,
    .ingest [⟨⟨"001", "02"⟩, []⟩], .ingest [⟨⟨"001", "01"⟩, []⟩], .event .act,
    .event (.elapse 60000)]

theorem announcing_overtakenHeartbeat :
    ∃ m earlier s₁ sent later s, servingOne.play bootAtOnce = some (m :: earlier, s₁) ∧
      m.AcceptsBoot sent ∧ s₁.play overtakenHeartbeat = some (later, s) ∧ s.cancelled = false ∧
      publishedIn later = [[⟨"001", "02"⟩], [⟨"001", "01"⟩]] ∧
      s.board.channel.unread = false ∧ Announcing later s := by
  obtain ⟨m, earlier, s₁, sent, later, s, boot, accepted, behind, going, published, read⟩ :
      ∃ m earlier s₁ sent later s, servingOne.play bootAtOnce = some (m :: earlier, s₁) ∧
        m.AcceptsBoot sent ∧ s₁.play overtakenHeartbeat = some (later, s) ∧ s.cancelled = false ∧
        publishedIn later = [[⟨"001", "02"⟩], [⟨"001", "01"⟩]] ∧ s.board.channel.unread = false :=
    ⟨_, _, _, _, _, _, rfl, ⟨rfl, rfl⟩, rfl, rfl, rfl, rfl⟩
  exact ⟨m, earlier, s₁, sent, later, s, boot, accepted, behind, going, published, read,
    announcing (.of_play _ boot) accepted (.of_play _ behind) going⟩

end SliceSelection.Lifecycle
