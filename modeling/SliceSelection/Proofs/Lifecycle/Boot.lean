import SliceSelection.Proofs.Lifecycle.Attempt

/-!
# The first registration and the announced networks

When the first registration is accepted, the announcements up to then count as read. Those before
the accepted attempt are in its profile. One that was published while the attempt was under way is
not: it is marked read all the same, and the instance stays registered with the networks of before.
-/

namespace SliceSelection.Lifecycle

open Registry

variable {s : System} {history : List Moment} {m : Moment} {sent : Profile}

/-- When the coordinator begins to listen behind an accepted first registration, nothing is
unread; and the profile that was accepted carries the networks in the store if and only if no list
was published while the attempt was under way, or the one published last is the one it carries.
Lists that were published before the attempt began are never lost. -/
theorem boot_announces_iff {self : Instance} {store : SliceConfig} {retryDelay : Nat}
    (run : Run (.ofInstance self store retryDelay) (m :: history) s) (boot : m.AcceptsBoot sent) :
    s.board.channel.unread = false ∧
    ∃ during start earlier, history = during ++ start :: earlier ∧ start.Registers sent ∧
      (∀ x ∈ during, x.calls = []) ∧ sent.announced = start.before.board.store.plmns ∧
      ((s.board.channel.unread = true ∨ sent.announced = s.board.store.plmns) ↔
        ∀ ps ∈ (publishedIn during).head?, ps = sent.announced) := by
  cases run with
  | next run step =>
    obtain ⟨under, listens⟩ := boot
    obtain ⟨during, start, earlier, rfl, begins, -, quiet⟩ :=
      run.registering (by simp [System.ofInstance, Coordinator.ofInstance]) under
    obtain ⟨i, begins⟩ := begins
    obtain ⟨-, attempt, behind⟩ := run.at_moment
    obtain ⟨carried, kept⟩ := attempt.announced begins
    obtain ⟨board, -⟩ := (Change.of_step step).acceptsBoot under listens
    have read : s.board.channel.unread = false := by
      rw [board]
      rfl
    have plmns : s.board.store.plmns = (publishedIn during).headD sent.announced := by
      rw [board, Coordinator.store_readBoard, behind.plmns, kept, carried]
    refine ⟨read, during, start, earlier, rfl, ⟨i, begins⟩, fun x hx => (quiet x hx).1, carried, ?_⟩
    rw [read, plmns]
    cases publishedIn during <;> simp [eq_comm]

/-- Another network is published half a second into the first attempt, which is accepted half a
second later. -/
def overtakenBoot : List Happening :=
  [.event (.answer (.register (.updated none))), .event (.elapse 500),
    .ingest [⟨⟨"001", "01"⟩, []⟩], .event (.elapse 500), .event .act]

theorem boot_announces_iff_overtaken :
    ∃ m history s sent, servingOne.play overtakenBoot = some (m :: history, s) ∧
      m.AcceptsBoot sent ∧ s.board.channel.unread = false ∧
      ∃ during start earlier, history = during ++ start :: earlier ∧ start.Registers sent ∧
        (∀ x ∈ during, x.calls = []) ∧ sent.announced = start.before.board.store.plmns ∧
        ((s.board.channel.unread = true ∨ sent.announced = s.board.store.plmns) ↔
          ∀ ps ∈ (publishedIn during).head?, ps = sent.announced) :=
  ⟨_, _, _, _, rfl, ⟨rfl, rfl⟩, boot_announces_iff (.of_play overtakenBoot rfl) ⟨rfl, rfl⟩⟩

/-- The network that was published is neither announced nor unread: it is lost. -/
theorem boot_announcement_lost :
    ∃ m history s sent, Run servingOne (m :: history) s ∧ m.AcceptsBoot sent ∧
      ¬ (s.board.channel.unread = true ∨ sent.announced = s.board.store.plmns) := by
  refine ⟨_, _, _, _, .of_play overtakenBoot rfl, ⟨rfl, rfl⟩, ?_⟩
  decide

end SliceSelection.Lifecycle
