import Agenda.Proofs.Rule.Reading
import Agenda.Proofs.Task.Placement
import Agenda.Proofs.Task.Table
import Agenda.Task.Operation

/-!
# What an operation does when it succeeds

Each operation on the table succeeds exactly if all its steps do; these statements say which steps they are
and which table they leave.

* `TaskDraft.prepare_eq_ok_iff`, `TaskDraft.prepare_eq_placement_error_iff` — the checks before storing.
* `Table.add_eq_ok_iff`, `Table.change_eq_ok_iff`, `Table.setDate_eq_ok_iff`, `Table.delete_eq_ok_iff`,
  `Table.complete_eq_ok_iff` — the operations.
* `Table.perform_eq` — an operation that fails leaves the table as it is.
-/

namespace Agenda

open Outcome

namespace TaskDraft

variable {draft prepared : TaskDraft} {now : Moment}

/-- A draft is stored with its date brought up to date, once its title and its rule have passed. -/
theorem prepare_eq_ok_iff :
    draft.prepare now = .ok prepared ↔ checkTitle draft.title = .ok () ∧
      Rule.check draft.recurrence = .ok () ∧
      ∃ date, placeDate draft.date draft.recurrence now = .ok date ∧
        prepared = { draft with date := date } := by
  simp only [prepare, bind_eq_ok_iff, mapError_eq_ok_iff, pure_eq_ok_iff]
  constructor
  · intro h
    obtain ⟨⟨⟩, htitle, ⟨⟩, hrule, date, hdate, rfl⟩ := h
    exact ⟨htitle, hrule, date, hdate, rfl⟩
  · intro h
    obtain ⟨htitle, hrule, date, hdate, rfl⟩ := h
    exact ⟨(), htitle, (), hrule, date, hdate, rfl⟩

/-- The placement is the last thing that can fail. -/
theorem prepare_eq_placement_error_iff {e : PlacementError} :
    draft.prepare now = .error (.placement e) ↔ checkTitle draft.title = .ok () ∧
      Rule.check draft.recurrence = .ok () ∧ placeDate draft.date draft.recurrence now = .error e := by
  have htitle : checkTitle draft.title ≠ .error (.placement e) := by
    rw [checkTitle]
    split
    · exact fun h => by cases h
    · split
      · exact fun h => by cases h
      · exact fun h => by cases h
  simp only [prepare, bind_eq_error_iff, mapError_eq_ok_iff, mapError_eq_error_iff, htitle, false_or,
    reduceCtorEq, and_false, exists_false, pure_ne_error, or_false, TaskError.placement.injEq,
    exists_eq_right]
  constructor
  · intro h'
    obtain ⟨⟨⟩, htitle, ⟨⟩, hrule, hdate⟩ := h'
    exact ⟨htitle, hrule, hdate⟩
  · intro h'
    obtain ⟨htitle, hrule, hdate⟩ := h'
    exact ⟨(), htitle, (), hrule, hdate⟩

/-- A rule that does not pass the check is reported as soon as the title has passed. -/
theorem prepare_of_check_error {rejection : Rejection} (htitle : checkTitle draft.title = .ok ())
    (hrule : Rule.check draft.recurrence = .error rejection) :
    draft.prepare now = .error (.rejected rejection) := by
  rw [prepare]
  rw [htitle, hrule]
  rfl

end TaskDraft

theorem Task.rule?_eq (task : Task) : task.rule? = recurrenceRule? task.recurrence := rfl

namespace Table

variable {t u : Table} {now : Moment} {id : Int} {task : Task}

theorem get_eq_ok_iff : t.get id = .ok task ↔ t.find? id = some task := by
  rw [get]
  cases t.find? id <;> simp

theorem get_eq_error_iff {e : TaskError} : t.get id = .error e ↔ t.find? id = none ∧ e = .notFound id := by
  rw [get]
  cases t.find? id with
  | none => simp [eq_comm]
  | some task => simp

theorem add_eq_ok_iff {draft : TaskDraft} :
    t.add now draft = .ok (task, u) ↔
      ∃ prepared, draft.prepare now = .ok prepared ∧ t.insertNew? prepared = some (task, u) := by
  simp only [add, bind_eq_ok_iff]
  refine exists_congr fun prepared => and_congr_right fun _ => ?_
  cases t.insertNew? prepared <;> simp

theorem change_eq_ok_iff {c : TaskChange} :
    t.change now id c = .ok (task, u) ↔
      ∃ old prepared, t.find? id = some old ∧ (c.applyTo old).draft.prepare now = .ok prepared ∧
        task = prepared.withId id ∧ u = t.replace task := by
  simp only [change, bind_eq_ok_iff, get_eq_ok_iff, pure_eq_ok_iff, Prod.mk.injEq]
  constructor
  · intro h
    obtain ⟨old, hold, prepared, hprepared, rfl, rfl⟩ := h
    exact ⟨old, prepared, hold, hprepared, rfl, rfl⟩
  · intro h
    obtain ⟨old, prepared, hold, hprepared, rfl, rfl⟩ := h
    exact ⟨old, hold, prepared, hprepared, rfl, rfl⟩

theorem add_of_prepare_error {draft : TaskDraft} {e : TaskError} (h : draft.prepare now = .error e) :
    t.add now draft = .error e := by
  rw [add, h]
  rfl

theorem change_of_prepare_error {c : TaskChange} {e : TaskError} (hfound : t.find? id = some task)
    (h : (c.applyTo task).draft.prepare now = .error e) : t.change now id c = .error e := by
  exact bind_eq_error_iff.2 (.inr ⟨task, get_eq_ok_iff.2 hfound, bind_eq_error_iff.2 (.inl h)⟩)

/-- A new task is not placed exactly if its draft is not. -/
theorem add_eq_placement_error_iff {draft : TaskDraft} {e : PlacementError} :
    t.add now draft = .error (.placement e) ↔ draft.prepare now = .error (.placement e) := by
  refine ⟨fun h => ?_, add_of_prepare_error⟩
  rcases bind_eq_error_iff.1 h with hprepare | ⟨prepared, -, hinsert⟩
  · exact hprepare
  · -- once the draft is prepared, only the numbers can be exhausted
    cases hnew : t.insertNew? prepared <;> simp [hnew] at hinsert

/-- A changed task is not placed exactly if it exists and its draft is not. -/
theorem change_eq_placement_error_iff {c : TaskChange} {e : PlacementError} :
    t.change now id c = .error (.placement e) ↔
      ∃ old, t.find? id = some old ∧ (c.applyTo old).draft.prepare now = .error (.placement e) := by
  constructor
  · intro h
    rcases bind_eq_error_iff.1 h with hget | ⟨old, hget, h⟩
    · exact absurd (get_eq_error_iff.1 hget).2 (by simp)
    · rcases bind_eq_error_iff.1 h with hprepare | ⟨prepared, -, hpure⟩
      · exact ⟨old, get_eq_ok_iff.1 hget, hprepare⟩
      · exact absurd hpure pure_ne_error
  · intro h'
    obtain ⟨old, hfound, hprepare⟩ := h'
    exact change_of_prepare_error hfound hprepare

theorem setDate_eq_ok_iff {date : String} :
    t.setDate id date = .ok u ↔
      (Date.ofCompact? date).isSome = true ∧
        ∃ old, t.find? id = some old ∧ u = t.replace { old with date := date } := by
  rw [setDate]
  cases Date.ofCompact? date with
  | none =>
    simp only [Option.isNone_none, if_true, Option.isSome_none, Bool.false_eq_true, false_and, iff_false]
    exact throw_ne_ok
  | some day =>
    simp only [Option.isNone_some, Bool.false_eq_true, if_false, Option.isSome_some, true_and]
    show (t.get id >>= fun task => pure (t.replace { task with date := date })) = .ok u ↔ _
    simp only [bind_eq_ok_iff, get_eq_ok_iff, pure_eq_ok_iff]
    exact exists_congr fun old => and_congr_right fun _ => eq_comm

theorem delete_eq_ok_iff :
    t.delete id = .ok u ↔ ∃ old, t.find? id = some old ∧ u = t.erase id := by
  simp only [delete, bind_eq_ok_iff, get_eq_ok_iff, pure_eq_ok_iff]
  constructor
  · intro h
    obtain ⟨old, hold, rfl⟩ := h
    rw [(find?_eq_some_iff.1 hold).2]
    exact ⟨old, hold, rfl⟩
  · intro h
    obtain ⟨old, hold, rfl⟩ := h
    refine ⟨old, hold, ?_⟩
    rw [(find?_eq_some_iff.1 hold).2]

theorem dateAfterCompletion_eq_ok_iff {rule : Rule} {current next : String} :
    dateAfterCompletion now rule current = .ok next ↔
      ∃ day date, Date.ofCompact? current = some day ∧ rule.afterCompletion? now.date day = some date ∧
        next = date.compact := by
  rw [dateAfterCompletion, readStart]
  simp only [bind_eq_ok_iff, pure_eq_ok_iff, withinCalendar_eq_ok_iff]
  cases Date.ofCompact? current with
  | none => simp
  | some day =>
    constructor
    · intro h
      obtain ⟨_, ⟨⟩, date, hdate, rfl⟩ := h
      exact ⟨day, date, rfl, hdate, rfl⟩
    · intro h
      obtain ⟨_, date, ⟨⟩, hdate, rfl⟩ := h
      exact ⟨day, rfl, date, hdate, rfl⟩

theorem dateAfterCompletion_eq_error_iff {rule : Rule} {current : String} {e : ScheduleError} :
    dateAfterCompletion now rule current = .error e ↔
      Date.ofCompact? current = none ∧ e = .invalidStart current ∨
        ∃ day, Date.ofCompact? current = some day ∧ rule.afterCompletion? now.date day = none ∧
          e = .outOfCalendar := by
  rw [dateAfterCompletion, readStart]
  simp only [bind_eq_error_iff, withinCalendar_eq_error_iff, pure_ne_error, and_false, exists_false, or_false]
  cases Date.ofCompact? current with
  | none => simp [eq_comm]
  | some day => simp

/-- A completed task goes if it does not repeat, and else moves to the next date of its rule. -/
theorem complete_eq_ok_iff {done : Completion} :
    t.complete now id = .ok (done, u) ↔
      ∃ old, t.find? id = some old ∧
        (recurrenceRule? old.recurrence = .ok none ∧ done = .removed old ∧ u = t.erase id ∨
          ∃ rule date, recurrenceRule? old.recurrence = .ok (some rule) ∧
            dateAfterCompletion now rule old.date = .ok date ∧
            done = .rescheduled { old with date := date } old.date ∧
            u = t.replace { old with date := date }) := by
  simp only [complete, bind_eq_ok_iff, get_eq_ok_iff, mapError_eq_ok_iff, Task.rule?_eq]
  refine exists_congr fun old => and_congr_right fun _ => ?_
  constructor
  · intro h'
    obtain ⟨rule?, hrule, h⟩ := h'
    cases rule? with
    | none =>
      rw [pure_eq_ok_iff, Prod.mk.injEq] at h
      exact .inl ⟨hrule, h.1.symm, h.2.symm⟩
    | some rule =>
      obtain ⟨date, hdate, h⟩ := bind_eq_ok_iff.1 h
      rw [pure_eq_ok_iff, Prod.mk.injEq] at h
      exact .inr ⟨rule, date, hrule, mapError_eq_ok_iff.1 hdate, h.1.symm, h.2.symm⟩
  · rintro (⟨hrule, rfl, rfl⟩ | ⟨rule, date, hrule, hdate, rfl, rfl⟩)
    · exact ⟨none, hrule, rfl⟩
    · exact ⟨some rule, hrule, bind_eq_ok_iff.2 ⟨date, mapError_eq_ok_iff.2 hdate, rfl⟩⟩

/-- A completion has no date for a rule that cannot be read, a stored date that cannot be read, or at the end
of the calendar. -/
theorem complete_eq_schedule_error_iff {e : ScheduleError} :
    t.complete now id = .error (.schedule e) ↔
      ∃ old, t.find? id = some old ∧
        ((∃ fault, recurrenceRule? old.recurrence = .error fault ∧ e = .rule fault) ∨
          ∃ rule, recurrenceRule? old.recurrence = .ok (some rule) ∧
            dateAfterCompletion now rule old.date = .error e) := by
  simp only [complete, bind_eq_error_iff, get_eq_error_iff, get_eq_ok_iff, mapError_eq_ok_iff,
    mapError_eq_error_iff, reduceCtorEq, and_false, false_or, TaskError.schedule.injEq, Task.rule?_eq]
  refine exists_congr fun old => and_congr_right fun _ => or_congr ?_ ?_
  · exact exists_congr fun fault => and_congr_right fun _ => eq_comm
  · constructor
    · intro h'
      obtain ⟨rule?, hrule, h⟩ := h'
      cases rule? with
      | none => exact absurd h pure_ne_error
      | some rule =>
        rcases bind_eq_error_iff.1 h with hdate | ⟨date, -, hpure⟩
        · obtain ⟨e', hdate, he⟩ := mapError_eq_error_iff.1 hdate
          cases he
          exact ⟨rule, hrule, hdate⟩
        · exact absurd hpure pure_ne_error
    · intro h'
      obtain ⟨rule, hrule, hdate⟩ := h'
      exact ⟨some rule, hrule, bind_eq_error_iff.2 (.inl (mapError_eq_error_iff.2 ⟨e, hdate, rfl⟩))⟩

/-- An operation that fails leaves the table as it is. -/
theorem perform_eq {request : Request} :
    (t.perform now request).2 = u ↔
      (∃ answer, t.attempt now request = .ok (answer, u)) ∨
        (∃ e, t.attempt now request = .error e) ∧ u = t := by
  rw [perform]
  cases t.attempt now request with
  | error e => simp [eq_comm]
  | ok result => simp [Prod.ext_iff]

theorem perform_eq_ok_iff {request : Request} {answer : Answer} :
    t.perform now request = (.ok answer, u) ↔ t.attempt now request = .ok (answer, u) := by
  rw [perform]
  cases t.attempt now request with
  | error e => simp
  | ok result => simp [Prod.ext_iff]

theorem perform_eq_error_iff {request : Request} {e : TaskError} :
    t.perform now request = (.error e, u) ↔ t.attempt now request = .error e ∧ u = t := by
  rw [perform]
  cases t.attempt now request with
  | error e' => simp [eq_comm]
  | ok result => simp

/-! ### Sequences of operations -/

/-- The table after operations, one after another and each at its own moment. -/
def performAll (t : Table) : List (Moment × Request) → Table
  | [] => t
  | (now, request) :: steps => (t.perform now request).2.performAll steps

theorem performAll_append (t : Table) (first second : List (Moment × Request)) :
    t.performAll (first ++ second) = (t.performAll first).performAll second := by
  induction first generalizing t with
  | nil => rfl
  | cons step first ih => exact ih _

/-- What holds of a table and is kept by every operation holds of the table after all of them. -/
theorem performAll_induction {P : Table → Prop}
    (hstep : ∀ t now request, P t → P (t.perform now request).2) (ht : P t)
    (steps : List (Moment × Request)) : P (t.performAll steps) := by
  induction steps generalizing t with
  | nil => exact ht
  | cons step steps ih => exact ih (hstep t step.1 step.2 ht)

end Table

end Agenda
