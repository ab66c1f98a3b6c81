import Agenda.Task.Basic

/-!
# The table of tasks

A table holds tasks under different numbers and remembers the greatest number that it ever held.  A new
task gets the number after that one, so the number of a task that is gone does not come back.

* `Table.ordered` — the tasks by date and number, the order in which they are listed.
* `Table.insertNew?`, `Table.replace`, `Table.erase` — the changes; each of them keeps the numbers
  different and in range.
-/

namespace Agenda

/-- The greatest number of a task. -/
def greatestId : Int := 9223372036854775807

/-- The tasks of a database. -/
structure Table where
  rows : List Task
  /-- The greatest number that the table ever held, or 0. -/
  highestId : Int
  ids_distinct : (rows.map Task.id).Nodup
  ids_le : ∀ t ∈ rows, t.id ≤ highestId
  highestId_nonneg : 0 ≤ highestId

namespace Table

/-- The table of a new database. -/
def empty : Table := ⟨[], 0, by simp, by simp, by decide⟩

/-- The task with a number. -/
def find? (t : Table) (id : Int) : Option Task := t.rows.find? (fun row => row.id == id)

/-- The order of listings: by the characters of the date, then by number. -/
def precedes (a b : Task) : Bool := decide (a.date < b.date) || (a.date == b.date && decide (a.id ≤ b.id))

def ordered (t : Table) : List Task := t.rows.mergeSort precedes

/-! ### Changes -/

/-- Puts a task with a number of its own into the table, unless the number is taken. -/
def insert? (t : Table) (task : Task) : Option Table :=
  if h : task.id ∈ t.rows.map Task.id then none
  else some {
    rows := t.rows ++ [task]
    highestId := max t.highestId task.id
    ids_distinct := by
      rw [List.map_append, List.nodup_append]
      refine ⟨t.ids_distinct, by simp, ?_⟩
      intro a ha b hb hab
      simp only [List.map_cons, List.map_nil, List.mem_singleton] at hb
      exact h (hb ▸ hab ▸ ha)
    ids_le := by
      intro row hrow
      rcases List.mem_append.1 hrow with hrow | hrow
      · have := t.ids_le row hrow
        omega
      · rw [List.mem_singleton] at hrow
        subst hrow
        omega
    highestId_nonneg := by
      have := t.highestId_nonneg
      omega }

/-- The number that a new task gets, unless all numbers were given out. -/
def nextId? (t : Table) : Option Int :=
  if t.highestId < greatestId then some (t.highestId + 1) else none

/-- Puts a task made of a draft into the table under a new number. -/
def insertNew? (t : Table) (draft : TaskDraft) : Option (Task × Table) := do
  let id ← t.nextId?
  let table ← t.insert? (draft.withId id)
  pure (draft.withId id, table)

def replace (t : Table) (task : Task) : Table where
  rows := t.rows.map fun row => if row.id = task.id then task else row
  highestId := t.highestId
  ids_distinct := by
    have h : (t.rows.map fun row => if row.id = task.id then task else row).map Task.id =
        t.rows.map Task.id := by
      rw [List.map_map]
      refine List.map_congr_left fun row _ => ?_
      simp only [Function.comp]
      split
      · rename_i h
        exact h.symm
      · rfl
    rw [h]
    exact t.ids_distinct
  ids_le := by
    intro row hrow
    obtain ⟨old, hold, rfl⟩ := List.mem_map.1 hrow
    have := t.ids_le old hold
    split
    · rename_i h
      rw [← h]
      exact this
    · exact this
  highestId_nonneg := t.highestId_nonneg

def erase (t : Table) (id : Int) : Table where
  rows := t.rows.filter fun row => row.id != id
  highestId := t.highestId
  ids_distinct := t.ids_distinct.sublist (List.filter_sublist.map _)
  ids_le := fun row hrow => t.ids_le row (List.mem_filter.1 hrow).1
  highestId_nonneg := t.highestId_nonneg

end Table

end Agenda
