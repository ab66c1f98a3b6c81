import Agenda.Task.Table
import Mathlib.Data.List.Nodup
import Mathlib.Logic.Function.Basic

/-!
# Rows of a table

What is found in a table and which rows a change leaves, told by membership; the numbers of the rows are
different, so a number names at most one of them.

* `find?_eq_some_iff` — looking up a number.
* `mem_replace`, `mem_erase`, `insertNew?_eq_some_iff` — the rows after a change.
* `find?_replace`, `find?_erase`, `find?_of_insertNew?` — what is found after a change: it differs under one
  number only.
-/

namespace Agenda.Table

/-- Tables with the same rows and the same greatest number are equal. -/
theorem ext_rows {t u : Table} (hrows : t.rows = u.rows) (hid : t.highestId = u.highestId) : t = u := by
  cases t
  cases u
  simp only at hrows hid
  subst hrows
  subst hid
  rfl

/-- A number names at most one row. -/
theorem eq_of_id_eq {t : Table} {a b : Task} (ha : a ∈ t.rows) (hb : b ∈ t.rows) (h : a.id = b.id) :
    a = b :=
  List.inj_on_of_nodup_map t.ids_distinct ha hb h

/-- **A task is found under a number exactly if it is the row with that number.** -/
theorem find?_eq_some_iff {t : Table} {id : Int} {task : Task} :
    t.find? id = some task ↔ task ∈ t.rows ∧ task.id = id := by
  constructor
  · intro h
    exact ⟨List.mem_of_find?_eq_some h, by simpa using List.find?_some h⟩
  · intro h'
    obtain ⟨hmem, rfl⟩ := h'
    cases h : t.find? task.id with
    | none => exact absurd (List.find?_eq_none.1 h task hmem) (by simp)
    | some other =>
      have hother := List.mem_of_find?_eq_some h
      have hid : other.id = task.id := by simpa using List.find?_some h
      rw [eq_of_id_eq hother hmem hid]

/-- No row has a number under which nothing is found. -/
theorem find?_eq_none_iff {t : Table} {id : Int} : t.find? id = none ↔ ∀ row ∈ t.rows, row.id ≠ id := by
  simp [find?]

theorem countP_eq_zero_iff {t : Table} {id : Int} :
    (t.rows.countP fun row => row.id == id) = 0 ↔ t.find? id = none := by
  simp [List.countP_eq_zero, find?_eq_none_iff]

/-! ### The rows after a change -/

/-- Putting a task in the place of a row keeps the other rows. -/
theorem mem_replace {t : Table} {old task row : Task} (hold : old ∈ t.rows) (hid : old.id = task.id) :
    row ∈ (t.replace task).rows ↔ row = task ∨ row ∈ t.rows ∧ row.id ≠ task.id := by
  show row ∈ t.rows.map _ ↔ _
  rw [List.mem_map]
  constructor
  · intro h'
    obtain ⟨a, ha, rfl⟩ := h'
    by_cases h : a.id = task.id
    · rw [if_pos h]
      exact .inl rfl
    · rw [if_neg h]
      exact .inr ⟨ha, h⟩
  · rintro (rfl | ⟨hrow, hne⟩)
    · exact ⟨old, hold, if_pos hid⟩
    · exact ⟨row, hrow, if_neg hne⟩

theorem mem_of_mem_replace {t : Table} {task row : Task} (h : row ∈ (t.replace task).rows) :
    row = task ∨ row ∈ t.rows := by
  obtain ⟨a, ha, rfl⟩ := List.mem_map.1 h
  by_cases hid : a.id = task.id
  · exact .inl (if_pos hid)
  · rw [if_neg hid]
    exact .inr ha

theorem mem_erase {t : Table} {id : Int} {row : Task} :
    row ∈ (t.erase id).rows ↔ row ∈ t.rows ∧ row.id ≠ id := by
  show row ∈ t.rows.filter _ ↔ _
  rw [List.mem_filter, bne_iff_ne]

/-- What was put in the place of a row is found under its number. -/
theorem find?_replace_self {t : Table} {old task : Task} {id : Int} (h : t.find? id = some old)
    (hid : old.id = task.id) : (t.replace task).find? id = some task := by
  obtain ⟨hold, rfl⟩ := find?_eq_some_iff.1 h
  exact find?_eq_some_iff.2 ⟨(mem_replace hold hid).2 (.inl rfl), hid.symm⟩

/-- Only the last of two tasks that are put in one place stays. -/
theorem replace_replace {t : Table} {a b : Task} (h : a.id = b.id) :
    (t.replace a).replace b = t.replace b := by
  refine ext_rows ?_ rfl
  show (t.rows.map _).map _ = t.rows.map _
  rw [List.map_map]
  refine List.map_congr_left fun row _ => ?_
  simp only [Function.comp, h]
  by_cases hrow : row.id = b.id
  · rw [if_pos hrow, if_pos h, if_pos hrow]
  · rw [if_neg hrow, if_neg hrow]

/-- Putting a row in its own place changes nothing. -/
theorem replace_self {t : Table} {task : Task} {id : Int} (h : t.find? id = some task) :
    t.replace task = t := by
  obtain ⟨hmem, -⟩ := find?_eq_some_iff.1 h
  refine ext_rows ?_ rfl
  show t.rows.map _ = t.rows
  conv_rhs => rw [← List.map_id t.rows]
  refine List.map_congr_left fun row hrow => ?_
  by_cases hid : row.id = task.id
  · rw [if_pos hid, eq_of_id_eq hrow hmem hid]
    rfl
  · rw [if_neg hid]
    rfl

/-- There is nothing to take out under a number that no row has. -/
theorem erase_of_find?_eq_none {t : Table} {id : Int} (h : t.find? id = none) : t.erase id = t := by
  refine ext_rows ?_ rfl
  show t.rows.filter _ = t.rows
  exact List.filter_eq_self.2 fun row hrow => bne_iff_ne.2 (find?_eq_none_iff.1 h row hrow)

/-- A task with a number of its own is put behind the rows. -/
theorem insert?_eq_some_iff {t u : Table} {task : Task} :
    t.insert? task = some u ↔ task.id ∉ t.rows.map Task.id ∧ u.rows = t.rows ++ [task] ∧
      u.highestId = max t.highestId task.id := by
  rw [insert?]
  by_cases h : task.id ∈ t.rows.map Task.id
  · simp [h]
  · rw [dif_neg h, Option.some.injEq]
    constructor
    · rintro rfl
      exact ⟨h, rfl, rfl⟩
    · intro h'
      obtain ⟨-, hrows, hid⟩ := h'
      exact (ext_rows hrows hid).symm

/-- The number after the greatest one is free. -/
theorem highestId_succ_not_mem (t : Table) : t.highestId + 1 ∉ t.rows.map Task.id := by
  intro h
  obtain ⟨row, hrow, hid⟩ := List.mem_map.1 h
  have := t.ids_le row hrow
  omega

/-- **A new task is put behind the rows, under the number after the greatest one.** -/
theorem insertNew?_eq_some_iff {t u : Table} {draft : TaskDraft} {task : Task} :
    t.insertNew? draft = some (task, u) ↔ t.highestId < greatestId ∧
      task = draft.withId (t.highestId + 1) ∧ u.rows = t.rows ++ [task] ∧ u.highestId = t.highestId + 1 := by
  have hfree := t.highestId_succ_not_mem
  have hmax : max t.highestId (t.highestId + 1) = t.highestId + 1 := by omega
  simp only [insertNew?, nextId?, Option.bind_eq_bind, Option.bind_eq_some_iff, Option.ite_none_right_eq_some,
    Option.pure_def, Option.some.injEq, Prod.mk.injEq]
  constructor
  · intro h'
    obtain ⟨id, ⟨hroom, rfl⟩, table, htable, rfl, rfl⟩ := h'
    obtain ⟨-, hrows, hid⟩ := insert?_eq_some_iff.1 htable
    exact ⟨hroom, rfl, hrows, hid.trans hmax⟩
  · intro h'
    obtain ⟨hroom, rfl, hrows, hid⟩ := h'
    exact ⟨_, ⟨hroom, rfl⟩, u, insert?_eq_some_iff.2 ⟨hfree, hrows, hid.trans hmax.symm⟩, rfl, rfl⟩

/-- While a number is left, a new task gets it. -/
theorem exists_insertNew? {t : Table} {id : Int} (draft : TaskDraft) (h : t.nextId? = some id) :
    ∃ u, t.insertNew? draft = some (draft.withId id, u) := by
  rw [nextId?, Option.ite_none_right_eq_some, Option.some.injEq] at h
  obtain ⟨hroom, rfl⟩ := h
  have hinsert : t.insert? (draft.withId (t.highestId + 1)) = some _ := dif_neg t.highestId_succ_not_mem
  obtain ⟨-, hrows, hhighest⟩ := insert?_eq_some_iff.1 hinsert
  have hmax : max t.highestId (t.highestId + 1) = t.highestId + 1 := by omega
  exact ⟨_, insertNew?_eq_some_iff.2 ⟨hroom, rfl, hrows, hhighest.trans hmax⟩⟩

/-! ### What is found after a change -/

/-- Tables whose rows differ under one number only find the same under every other number. -/
theorem find?_eq_update {t u : Table} {id : Int} {found : Option Task}
    (hid : ∀ row, found = some row → row.id = id)
    (hrows : ∀ row, row ∈ u.rows ↔ found = some row ∨ row ∈ t.rows ∧ row.id ≠ id) :
    u.find? = Function.update t.find? id found := by
  funext other
  refine Option.ext fun row => ?_
  rw [find?_eq_some_iff, hrows]
  by_cases hother : other = id
  · subst hother
    rw [Function.update_self]
    constructor
    · rintro ⟨hfound | ⟨-, hne⟩, hrow⟩
      · exact hfound
      · exact absurd hrow hne
    · intro hfound
      exact ⟨.inl hfound, hid row hfound⟩
  · rw [Function.update_of_ne hother, find?_eq_some_iff]
    constructor
    · rintro ⟨hfound | ⟨hrow, -⟩, hrowid⟩
      · exact absurd (hrowid.symm.trans (hid row hfound)) hother
      · exact ⟨hrow, hrowid⟩
    · intro h'
      obtain ⟨hrow, rfl⟩ := h'
      exact ⟨.inr ⟨hrow, hother⟩, rfl⟩

theorem find?_replace {t : Table} {old task : Task} {id : Int} (h : t.find? id = some old)
    (hid : task.id = id) : (t.replace task).find? = Function.update t.find? id (some task) := by
  obtain ⟨hold, hsame⟩ := find?_eq_some_iff.1 h
  subst hid
  refine find?_eq_update ?_ fun row => ?_
  · rintro row ⟨⟩
    rfl
  · rw [mem_replace hold hsame, Option.some.injEq, eq_comm (a := task)]

theorem find?_erase (t : Table) (id : Int) : (t.erase id).find? = Function.update t.find? id none := by
  refine find?_eq_update ?_ fun row => ?_
  · rintro row ⟨⟩
  · simp [mem_erase]

theorem find?_of_insertNew? {t u : Table} {draft : TaskDraft} {task : Task}
    (h : t.insertNew? draft = some (task, u)) :
    t.nextId? = some task.id ∧ t.find? task.id = none ∧
      u.find? = Function.update t.find? task.id (some task) := by
  obtain ⟨hroom, rfl, hrows, -⟩ := insertNew?_eq_some_iff.1 h
  have hfree : ∀ row ∈ t.rows, row.id ≠ t.highestId + 1 := fun row hrow hid =>
    t.highestId_succ_not_mem (List.mem_map.2 ⟨row, hrow, hid⟩)
  refine ⟨if_pos hroom, find?_eq_none_iff.2 hfree, find?_eq_update ?_ fun row => ?_⟩
  · rintro row ⟨⟩
    rfl
  · rw [hrows, List.mem_append, List.mem_singleton, Option.some.injEq, or_comm, eq_comm (a := row)]
    exact or_congr_right ⟨fun hrow => ⟨hrow, hfree row hrow⟩, fun h => h.1⟩

end Agenda.Table
