import Agenda.Proofs.Task.Operation
import Agenda.Proofs.Task.Stopover
import Mathlib.Data.List.Forall2

/-!
# The time of day does not matter

The search for an occurrence of a weekly or monthly rule compares full moments, but only with midnights, and a
midnight lies after a moment exactly if its day does.  So the operations see no more of a moment than its day:
two runs of the same requests at other hours of the same days give the same answers and the same tables.

* `nextDate_of_date_eq`, `placeDate_of_date_eq` — the next date and the placement of a task.
* `Table.perform_of_date_eq` — one operation.
* `Table.history`, `Table.history_of_same_days` — all answers and all tables of a run.
-/

namespace Agenda

section OneDay

variable {early late : Moment}

theorem nextDate_of_date_eq (h : early.date = late.date) (start rule : String) :
    nextDate early start rule = nextDate late start rule := by
  simp only [nextDate, Rule.nextAfter?_of_date_eq h]

theorem requestedDate_of_date_eq (h : early.date = late.date) (date : String) :
    requestedDate date early = requestedDate date late := by
  rw [requestedDate, requestedDate, h]

theorem placeDate_of_date_eq (h : early.date = late.date) (date recurrence : String) :
    placeDate date recurrence early = placeDate date recurrence late := by
  simp only [placeDate, requestedDate_of_date_eq h, nextDate_of_date_eq h, h]

theorem TaskDraft.prepare_of_date_eq (h : early.date = late.date) (draft : TaskDraft) :
    draft.prepare early = draft.prepare late := by
  simp only [prepare, placeDate_of_date_eq h]

end OneDay

namespace Table

variable {early late : Moment}

/-! ### One operation -/

theorem complete_of_date_eq (h : early.date = late.date) (t : Table) (id : Int) :
    t.complete early id = t.complete late id := by
  simp only [complete, dateAfterCompletion, h]

theorem attempt_of_date_eq (h : early.date = late.date) (t : Table) (request : Request) :
    t.attempt early request = t.attempt late request := by
  cases request with
  | add draft => simp only [attempt, add, TaskDraft.prepare_of_date_eq h]
  | change id c => simp only [attempt, change, TaskDraft.prepare_of_date_eq h]
  | complete id => rw [attempt, attempt, complete_of_date_eq h]
  | find id => rfl
  | list limit => rfl
  | search term limit => rfl
  | setDate id date => rfl
  | delete id => rfl

/-- An operation sees only the day of its moment. -/
theorem perform_of_date_eq (h : early.date = late.date) (t : Table) (request : Request) :
    t.perform early request = t.perform late request := by
  rw [perform, perform, attempt_of_date_eq h]

/-! ### Runs -/

/-- The answers of operations, one after another and each at its own moment, with the table after each. -/
def history (t : Table) : List (Moment × Request) → List (Except TaskError Answer × Table)
  | [] => []
  | (now, request) :: steps => t.perform now request :: (t.perform now request).2.history steps

def SameDay (a b : Moment × Request) : Prop := a.1.date = b.1.date ∧ a.2 = b.2

theorem history_of_sameDay {steps others : List (Moment × Request)} (h : List.Forall₂ SameDay steps others)
    (t : Table) : t.history steps = t.history others := by
  induction h generalizing t with
  | nil => rfl
  | @cons step other steps others hstep _ ih =>
    obtain ⟨early, request⟩ := step
    obtain ⟨late, request'⟩ := other
    obtain ⟨hday, rfl⟩ : early.date = late.date ∧ request = request' := hstep
    show t.perform early request :: _ = t.perform late request :: _
    rw [perform_of_date_eq hday, ih]

/-- **The time of day never matters.**  Two runs of the same requests on the same days, at whatever times of
these days, have the same answers and the same tables throughout, from whatever table they start.  At any two
moments of a day the next date of a task is the same, and so are the date that is asked for and the date that
is stored. -/
theorem history_of_same_days :
    (∀ (t : Table) (steps others : List (Moment × Request)), List.Forall₂ SameDay steps others →
      t.history steps = t.history others) ∧
    ∀ early late : Moment, early.date = late.date →
      (∀ start rule, nextDate early start rule = nextDate late start rule) ∧
      ∀ date recurrence, requestedDate date early = requestedDate date late ∧
        placeDate date recurrence early = placeDate date recurrence late := by
  refine ⟨?_, ?_⟩
  · intro t steps others h
    exact history_of_sameDay h t
  · intro early late h
    exact ⟨nextDate_of_date_eq h, fun date recurrence =>
      ⟨requestedDate_of_date_eq h date, placeDate_of_date_eq h date recurrence⟩⟩

/-- A weekly task that is added and done on its weekday, at midnight and in the last leap second of the day. -/
theorem history_of_same_days_monday :
    let monday : Date := (Date.of? 2025 3 10).get (by decide)
    let midnight : Moment := .midnight monday
    let lastSecond : Moment := ⟨monday, (TimeOfDay.of? 23 59 59 1999999999).get (by decide)⟩
    let requests : List Request := [.add ⟨"Gym", "", "", "w 1"⟩, .complete 1]
    List.Forall₂ SameDay (requests.map (midnight, ·)) (requests.map (lastSecond, ·)) ∧
      empty.history (requests.map (midnight, ·)) = empty.history (requests.map (lastSecond, ·)) ∧
      midnight.date = lastSecond.date ∧
      nextDate midnight "20250310" "w 1" = nextDate lastSecond "20250310" "w 1" ∧
      placeDate "" "w 1" midnight = placeDate "" "w 1" lastSecond := by
  intro monday midnight lastSecond requests
  obtain ⟨hruns, hmoments⟩ := history_of_same_days
  have hsame : List.Forall₂ SameDay (requests.map (midnight, ·)) (requests.map (lastSecond, ·)) :=
    .cons ⟨rfl, rfl⟩ (.cons ⟨rfl, rfl⟩ .nil)
  obtain ⟨hnext, hplace⟩ := hmoments midnight lastSecond rfl
  exact ⟨hsame, hruns empty _ _ hsame, rfl, hnext _ _, (hplace _ _).2⟩

end Table

end Agenda
