import Agenda.Proofs.Rule.Completion
import Agenda.Proofs.Task.Operation

/-!
# Late completions

A task that is done late moves to the date on which it would be if it had been done in time, every time that
it was due.

* `Table.afterCompletions` — completions of a task, one after another.
* `Table.complete_of_parse` — what a completion of a task with a readable rule and date does.
* `Table.complete_late_eq_timely` — a late completion leaves the table that the timely ones leave.
-/

namespace Agenda

open Outcome

def Task.movedTo (task : Task) (day : Date) : Task := { task with date := day.compact }

namespace Table

/-- The table after so many completions of a task, each of them at a moment of its own. -/
def afterCompletions (t : Table) (id : Int) (clock : Nat → Moment) : Nat → Except TaskError Table
  | 0 => .ok t
  | k + 1 => do
    let before ← t.afterCompletions id clock k
    let (_, after) ← before.complete (clock k) id
    pure after

variable {t : Table} {now : Moment} {id : Int} {task : Task} {rule : Rule} {due day next : Date}

/-- A completion of a task with a readable rule and date moves it to the next date of the rule. -/
theorem complete_of_parse (hfound : t.find? id = some task) (hrule : Rule.parse task.recurrence = .ok rule)
    (hdue : Date.ofCompact? task.date = some due)
    (hnext : rule.afterCompletion? now.date due = some next) :
    t.complete now id = .ok (.rescheduled (task.movedTo next) task.date, t.replace (task.movedTo next)) := by
  have hread := recurrenceRule?_eq_ok_some_iff.2 hrule
  refine complete_eq_ok_iff.2 ⟨task, hfound, .inr ⟨rule, next.compact, hread, ?_, rfl, rfl⟩⟩
  exact dateAfterCompletion_eq_ok_iff.2 ⟨due, next, hdue, hnext, rfl⟩

/-- A task that has moved is found where it was, and a further completion moves it on. -/
theorem complete_replace_movedTo (hfound : t.find? id = some task)
    (hrule : Rule.parse task.recurrence = .ok rule) (hday : day.HasFourDigitYear)
    (hnext : rule.afterCompletion? now.date day = some next) :
    (t.replace (task.movedTo day)).complete now id =
      .ok (.rescheduled (task.movedTo next) day.compact, t.replace (task.movedTo next)) := by
  have hmoved : (t.replace (task.movedTo day)).find? id = some (task.movedTo day) :=
    find?_replace_self hfound rfl
  have hsame : (t.replace (task.movedTo day)).replace (task.movedTo next) = t.replace (task.movedTo next) :=
    replace_replace rfl
  rw [complete_of_parse hmoved hrule (Date.ofCompact?_compact hday) hnext]
  show Except.ok (_, (t.replace (task.movedTo day)).replace (task.movedTo next)) = _
  rw [hsame]
  rfl

/-- **A late completion leaves the table that timely completions leave.**  The days on which the task is due
are the same whenever it is done in time, and the last of them is the first one after today. -/
theorem complete_late_eq_timely (hfound : t.find? id = some task)
    (hrule : Rule.parse task.recurrence = .ok rule) (hdue : Date.ofCompact? task.date = some due)
    (hlate : due ≤ now.date) (hnow : now.date.HasFourDigitYear) :
    ∃ (n : Nat) (day : Nat → Date), day 0 = due ∧ now.date < day n ∧
      (∀ k < n, day k ≤ now.date ∧ day k < day (k + 1)) ∧
      t.complete now id =
        .ok (.rescheduled (task.movedTo (day n)) task.date, t.replace (task.movedTo (day n))) ∧
      ∀ clock : Nat → Moment, (∀ k < n, (clock k).date ≤ day k) →
        ∀ k ≤ n, t.afterCompletions id clock k = .ok (t.replace (task.movedTo (day k))) := by
  obtain ⟨hdigits, htext⟩ := Date.ofCompact?_eq_some_iff.1 hdue
  have hwell := Rule.wellFormed_of_parse hrule
  obtain ⟨next, hnext⟩ := Rule.exists_afterCompletion? hwell now.date due (by
    rw [max_eq_left hlate]
    exact hnow.dayNumber_add_lt)
  obtain ⟨n, day, hzero, hlast, hafter, hstep⟩ := Rule.exists_timelyDates hwell.movesOn hlate hnext
  refine ⟨n, day, hzero, hlast ▸ hafter, fun k hk => ⟨(hstep k hk).2.1, (hstep k hk).2.2.1⟩, ?_, ?_⟩
  · rw [hlast]
    exact complete_of_parse hfound hrule hdue hnext
  · intro clock hclock k hk
    induction k with
    | zero =>
      have hsame : task.movedTo (day 0) = task := by
        rw [hzero, Task.movedTo, ← htext]
      rw [hsame, replace_self hfound]
      rfl
    | succ k ih =>
      obtain ⟨hge, hle, -, htimely⟩ := hstep k (by omega)
      have hnext := (Rule.afterCompletion?_of_le (hclock k (by omega))).trans htimely
      -- a day from the due date to today is read again as it was written
      have hday := hdigits.of_le_of_le hnow hge hle
      rw [afterCompletions, ih (by omega)]
      show (t.replace (task.movedTo (day k))).complete (clock k) id >>= _ = _
      rw [complete_replace_movedTo hfound hrule hday hnext]
      rfl

/-- A task that comes back on each leap day, done five years late. -/
theorem complete_late_leapDay :
    let task : Task := ⟨1, "20200229", "Leap day", "", "y"⟩
    let t : Table := ⟨[task], 1, by decide, by decide, by decide⟩
    let today : Date := ⟨2025, 3, 10, by decide, by decide, by decide, by decide, by decide, by decide⟩
    let due : Date := ⟨2020, 2, 29, by decide, by decide, by decide, by decide, by decide, by decide⟩
    ∃ (n : Nat) (day : Nat → Date), day 0 = due ∧ today < day n ∧
      (∀ k < n, day k ≤ today ∧ day k < day (k + 1)) ∧
      t.complete (.midnight today) 1 =
        .ok (.rescheduled (task.movedTo (day n)) "20200229", t.replace (task.movedTo (day n))) ∧
      ∀ clock : Nat → Moment, (∀ k < n, (clock k).date ≤ day k) →
        ∀ k ≤ n, t.afterCompletions 1 clock k = .ok (t.replace (task.movedTo (day k))) := by
  intro task t today due
  have hrule : Rule.parse task.recurrence = .ok .yearly := by decide
  have hdue : Date.ofCompact? task.date = some due := by decide
  have hlate : due ≤ (Moment.midnight today).date := by decide
  have hnow : (Moment.midnight today).date.HasFourDigitYear := by decide
  exact complete_late_eq_timely rfl hrule hdue hlate hnow

end Table

end Agenda
