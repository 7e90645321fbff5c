import SliceSelection.Proofs.Lifecycle.Run

/-!
# Courses of the coordinator

A course is a coordinator alone and its history: the board changes in whatever way, be it by
ingestion or not. A run of the system is a course of its coordinator, so what is shown of every
course holds of every run.
-/

namespace SliceSelection.Lifecycle

namespace Coordinator

/-- A moment in the history of a coordinator. -/
structure Occurrence where
  before : Coordinator
  event : Event
  /-- The calls that begin. -/
  calls : List Call
  after : Coordinator

/-- `Course c₀ history c`: the occurrences of the history, the last one first, lead from `c₀`
to `c`. -/
inductive Course (c₀ : Coordinator) : List Occurrence → Coordinator → Prop where
  | start : Course c₀ [] c₀
  | next {history : List Occurrence} {c c' : Coordinator} {e : Event} {calls : List Call}
      (course : Course c₀ history c) (step : c.step e = some (c', calls)) :
      Course c₀ (⟨c, e, calls, c'⟩ :: history) c'

/-- Let events happen, the last one first; and the history, if all were enabled. -/
def play (c : Coordinator) : List Event → Option (List Occurrence × Coordinator)
  | [] => some ([], c)
  | e :: es => do
    let (history, c₁) ← c.play es
    let (c', calls) ← c₁.step e
    return (⟨c₁, e, calls, c'⟩ :: history, c')

namespace Course

variable {c₀ c : Coordinator} {x : Occurrence} {history newer older : List Occurrence}

/-- What is played is a course. -/
lemma of_play (es : List Event) (h : c₀.play es = some (history, c)) : Course c₀ history c := by
  induction es generalizing history c with
  | nil =>
    cases h
    exact .start
  | cons e es ih =>
    simp only [play, Option.bind_eq_bind, Option.bind_eq_some_iff, Option.pure_def] at h
    obtain ⟨⟨earlier, c₁⟩, before, ⟨c', calls⟩, step, h⟩ := h
    cases h
    exact .next (ih before) step

/-- The part of a course behind a point of its history is a course from there. -/
lemma split (course : Course c₀ (newer ++ older) c) :
    ∃ c₁, Course c₀ older c₁ ∧ Course c₁ newer c := by
  induction newer generalizing c with
  | nil => exact ⟨c, course, .start⟩
  | cons x newer ih =>
    cases course with
    | next course step =>
      obtain ⟨c₁, before, behind⟩ := ih course
      exact ⟨c₁, before, .next behind step⟩

/-- The course up to an occurrence, its rule, and the course behind it. -/
lemma at_occurrence (course : Course c₀ (newer ++ x :: older) c) :
    Course c₀ older x.before ∧ Rule x.before x.event x.after x.calls ∧ Course x.after newer c := by
  obtain ⟨c₁, before, behind⟩ := course.split
  cases before with
  | next before step => exact ⟨before, .of_step step, behind⟩

/-- What every rule keeps holds at the end of every course. -/
lemma keeps {P : Coordinator → Prop}
    (step : ∀ {c e c' calls}, Rule c e c' calls → P c → P c') (course : Course c₀ history c)
    (start : P c₀) : P c := by
  induction course with
  | start => exact start
  | next _ move ih => exact step (.of_step move) ih

end Course

end Coordinator

/-- The event of the coordinator in a moment of a run: what ingestion does changes the board. -/
def Moment.occurrence (m : Moment) : Coordinator.Occurrence where
  before := m.before.toCoordinator
  event := match m.happening with
    | .ingest _ => .board m.after.board
    | .close => .board m.after.board
    | .event e => e
  calls := m.calls
  after := m.after.toCoordinator

variable {s₀ s s' : System} {calls : List Call} {history : List Moment}

/-- What happens to a system happens to its coordinator. -/
lemma System.step_occurrence {h : Happening} (step : s.step h = some (s', calls)) :
    s.toCoordinator.step (Moment.occurrence ⟨s, h, calls, s'⟩).event =
      some (s'.toCoordinator, calls) := by
  cases h with
  | ingest list =>
    simp only [System.step, System.through, Option.ite_none_left_eq_some] at step
    cases step.2
    rfl
  | close =>
    cases step
    rfl
  | event e =>
    simp only [System.step, System.through, Option.ite_none_left_eq_some,
      Option.map_eq_some_iff] at step
    obtain ⟨-, ⟨c, k⟩, step, h⟩ := step
    cases h
    exact step

/-- A run of the system is a course of its coordinator. -/
theorem Run.course (run : Run s₀ history s) :
    s₀.toCoordinator.Course (history.map (·.occurrence)) s.toCoordinator := by
  induction run with
  | start => exact .start
  | next _ step ih => exact .next ih (System.step_occurrence step)

end SliceSelection.Lifecycle
