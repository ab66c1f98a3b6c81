import Agenda.Proofs.Task.Storing

/-!
# Rows that stay in order

The operations start from an empty table and write no row that has not passed the checks, or that has not
passed them before and only moves to another date.  So whatever the operations and their arguments, every row
has a title and a recurrence that can be read.  The numbers go up: a new task gets one that no row has had
before, and a number that was given out and is free again stays free.

* `Table.Writes`, `Table.writes_perform` — what an operation can do to the rows, said once for all operations.
* `Table.isInOrder_perform`, `Table.highestId_le_perform`, `Table.isRetired_perform` — what one operation keeps.
* `Table.run_keeps_order` — what every sequence of operations keeps.
-/

namespace Agenda

open Outcome

/-- A row as the operations store it. -/
structure Task.IsInOrder (task : Task) : Prop where
  title : task.draft.HasTitle
  recurrence : task.draft.HasRecurrence
  id_pos : 0 < task.id

/-- A prepared draft has the title and the recurrence that were checked. -/
theorem TaskDraft.hasTitle_and_hasRecurrence_of_prepare {draft prepared : TaskDraft} {now : Moment}
    (h : draft.prepare now = .ok prepared) : prepared.HasTitle ∧ prepared.HasRecurrence := by
  obtain ⟨htitle, hrecurrence, date, -, rfl⟩ := prepare_eq_ok_iff.1 h
  exact ⟨hasTitle_of_checkTitle htitle, Rule.check_eq_ok_iff.1 hrecurrence⟩

/-- The rule of a row in order can be read. -/
theorem Task.IsInOrder.exists_rule? {task : Task} (h : task.IsInOrder) : ∃ rule, task.rule? = .ok rule := by
  rcases h.recurrence with hempty | ⟨rule, hrule⟩
  · exact ⟨none, recurrenceRule?_eq_ok_none_iff.2 hempty⟩
  · exact ⟨some rule, recurrenceRule?_eq_ok_some_iff.2 hrule⟩

namespace Table

def IsInOrder (t : Table) : Prop := ∀ task ∈ t.rows, task.IsInOrder

/-- A number that was given out and that no row has. -/
def IsRetired (t : Table) (id : Int) : Prop := id ≤ t.highestId ∧ t.find? id = none

/-- The tables that an operation may leave, by what it does to the rows. -/
inductive Writes (t : Table) (now : Moment) : Table → Prop
  | nothing : Writes t now t
  | erase (id : Int) : Writes t now (t.erase id)
  /-- A row moves to another date. -/
  | move {old : Task} (date : String) : old ∈ t.rows → Writes t now (t.replace { old with date := date })
  /-- A row is overwritten by a draft that has passed the checks. -/
  | overwrite {old : Task} {draft prepared : TaskDraft} : old ∈ t.rows → draft.prepare now = .ok prepared →
      Writes t now (t.replace (prepared.withId old.id))
  /-- A draft that has passed the checks becomes a new row. -/
  | insert {draft prepared : TaskDraft} {task : Task} {u : Table} : draft.prepare now = .ok prepared →
      t.insertNew? prepared = some (task, u) → Writes t now u

variable {t u : Table} {now : Moment} {id : Int} {request : Request} {answer : Answer}

theorem writes_of_attempt (h : t.attempt now request = .ok (answer, u)) : t.Writes now u := by
  cases request with
  | add draft =>
    obtain ⟨⟨task, v⟩, hadd, ⟨⟩⟩ := map_eq_ok_iff.1 h
    obtain ⟨prepared, hprepare, hinsert⟩ := add_eq_ok_iff.1 hadd
    exact .insert hprepare hinsert
  | change id c =>
    obtain ⟨⟨task, v⟩, hchange, ⟨⟩⟩ := map_eq_ok_iff.1 h
    obtain ⟨old, prepared, hfound, hprepare, rfl, rfl⟩ := change_eq_ok_iff.1 hchange
    obtain ⟨hold, rfl⟩ := find?_eq_some_iff.1 hfound
    exact .overwrite hold hprepare
  | setDate id date =>
    obtain ⟨v, hset, ⟨⟩⟩ := map_eq_ok_iff.1 h
    obtain ⟨-, old, hfound, rfl⟩ := setDate_eq_ok_iff.1 hset
    exact .move date (find?_eq_some_iff.1 hfound).1
  | delete id =>
    obtain ⟨v, hdelete, ⟨⟩⟩ := map_eq_ok_iff.1 h
    obtain ⟨old, -, rfl⟩ := delete_eq_ok_iff.1 hdelete
    exact .erase id
  | complete id =>
    obtain ⟨⟨done, v⟩, hcomplete, ⟨⟩⟩ := map_eq_ok_iff.1 h
    obtain ⟨old, hfound, ⟨-, -, rfl⟩ | ⟨rule, date, -, -, -, rfl⟩⟩ := complete_eq_ok_iff.1 hcomplete
    · exact .erase id
    · exact .move date (find?_eq_some_iff.1 hfound).1
  | find id =>
    cases h
    exact .nothing
  | list limit =>
    cases h
    exact .nothing
  | search term limit =>
    obtain ⟨found, -, ⟨⟩⟩ := map_eq_ok_iff.1 h
    exact .nothing

/-- **Every operation does one of these things to the rows**; one that fails does nothing. -/
theorem writes_perform (t : Table) (now : Moment) (request : Request) :
    t.Writes now (t.perform now request).2 := by
  rw [perform]
  cases h : t.attempt now request with
  | ok result => exact writes_of_attempt h
  | error e => exact .nothing

/-! ### One operation -/

/-- A row goes back to an earlier row with its number, and is in order if that one was; or it is new, in order
and with a number beyond all that were given out. -/
theorem Writes.origin (h : t.Writes now u) {row : Task} (hrow : row ∈ u.rows) :
    (∃ old ∈ t.rows, old.id = row.id ∧ (old.IsInOrder → row.IsInOrder)) ∨
      t.highestId < row.id ∧ row.IsInOrder := by
  cases h with
  | nothing => exact .inl ⟨row, hrow, rfl, fun h => h⟩
  | erase id => exact .inl ⟨row, (mem_erase.1 hrow).1, rfl, fun h => h⟩
  | @move old date hold =>
    rcases mem_of_mem_replace hrow with rfl | hmem
    · exact .inl ⟨old, hold, rfl, fun h => ⟨h.title, h.recurrence, h.id_pos⟩⟩
    · exact .inl ⟨row, hmem, rfl, fun h => h⟩
  | @overwrite old draft prepared hold hprepare =>
    rcases mem_of_mem_replace hrow with rfl | hmem
    · obtain ⟨htitle, hrecurrence⟩ := TaskDraft.hasTitle_and_hasRecurrence_of_prepare hprepare
      exact .inl ⟨old, hold, rfl, fun h => ⟨htitle, hrecurrence, h.id_pos⟩⟩
    · exact .inl ⟨row, hmem, rfl, fun h => h⟩
  | insert hprepare hinsert =>
    obtain ⟨-, rfl, hrows, -⟩ := insertNew?_eq_some_iff.1 hinsert
    rw [hrows, List.mem_append, List.mem_singleton] at hrow
    rcases hrow with hmem | rfl
    · exact .inl ⟨row, hmem, rfl, fun h => h⟩
    · obtain ⟨htitle, hrecurrence⟩ := TaskDraft.hasTitle_and_hasRecurrence_of_prepare hprepare
      exact .inr ⟨Int.lt_add_one_of_le le_rfl, htitle, hrecurrence, Int.lt_add_one_of_le t.highestId_nonneg⟩

theorem Writes.highestId_le (h : t.Writes now u) : t.highestId ≤ u.highestId := by
  cases h with
  | nothing => exact le_rfl
  | erase id => exact le_rfl
  | move date hold => exact le_rfl
  | overwrite hold hprepare => exact le_rfl
  | insert hprepare hinsert =>
    obtain ⟨-, -, -, hhighest⟩ := insertNew?_eq_some_iff.1 hinsert
    rw [hhighest]
    exact Int.le_add_one le_rfl

theorem isInOrder_perform (ht : t.IsInOrder) : (t.perform now request).2.IsInOrder := by
  intro row hrow
  rcases (t.writes_perform now request).origin hrow with ⟨old, hold, -, hkeeps⟩ | ⟨-, hnew⟩
  · exact hkeeps (ht old hold)
  · exact hnew

theorem highestId_le_perform (t : Table) (now : Moment) (request : Request) :
    t.highestId ≤ (t.perform now request).2.highestId := (t.writes_perform now request).highestId_le

/-- A retired number is not given out again. -/
theorem isRetired_perform (ht : t.IsRetired id) : (t.perform now request).2.IsRetired id := by
  obtain ⟨hle, hfree⟩ := ht
  refine ⟨hle.trans (t.highestId_le_perform now request), find?_eq_none_iff.2 fun row hrow hid => ?_⟩
  rcases (t.writes_perform now request).origin hrow with ⟨old, hold, hsame, -⟩ | ⟨hbeyond, -⟩
  · exact find?_eq_none_iff.1 hfree old hold (hsame.trans hid)
  · omega

/-! ### Sequences of operations -/

theorem isInOrder_performAll (ht : t.IsInOrder) (steps : List (Moment × Request)) :
    (t.performAll steps).IsInOrder :=
  performAll_induction (fun _ _ _ => isInOrder_perform) ht steps

theorem isInOrder_empty : empty.IsInOrder := by
  intro task htask
  cases htask

theorem highestId_le_performAll (t : Table) (steps : List (Moment × Request)) :
    t.highestId ≤ (t.performAll steps).highestId := by
  refine performAll_induction (P := fun u => t.highestId ≤ u.highestId) ?_ le_rfl steps
  intro u now request hle
  exact hle.trans (u.highestId_le_perform now request)

theorem isRetired_performAll (ht : t.IsRetired id) (steps : List (Moment × Request)) :
    (t.performAll steps).IsRetired id :=
  performAll_induction (P := fun u => u.IsRetired id) (fun _ _ _ => isRetired_perform) ht steps

/-- A row of a table never has a greater number than the table has given out, then or later. -/
theorem id_le_highestId_performAll {row : Task} (hrow : row ∈ t.rows) (steps : List (Moment × Request)) :
    row.id ≤ (t.performAll steps).highestId :=
  (t.ids_le row hrow).trans (t.highestId_le_performAll steps)

/-- A completion of a table in order never fails for a rule. -/
theorem complete_ne_rule_error (ht : t.IsInOrder) (e : RuleError) :
    t.complete now id ≠ .error (.schedule (.rule e)) := by
  intro h
  obtain ⟨old, hfound, ⟨fault, hrule, -⟩ | ⟨rule, -, hdate⟩⟩ := complete_eq_schedule_error_iff.1 h
  · obtain ⟨rule, hread⟩ := (ht old (find?_eq_some_iff.1 hfound).1).exists_rule?
    rw [Task.rule?_eq, hrule] at hread
    cases hread
  · rcases dateAfterCompletion_eq_error_iff.1 hdate with ⟨-, hfault⟩ | ⟨-, -, -, hfault⟩
    · cases hfault
    · cases hfault

/-- **What all operations on a new table keep**, whatever their arguments and moments are and whether they
succeed or not.  Every row has a title and a recurrence as they were checked, so no completion fails for a
rule; the numbers of the rows are positive and different; a new task gets a number beyond those of all rows
that there have ever been; and a number that a row has had and that is free stays free. -/
theorem run_keeps_order (steps : List (Moment × Request)) :
    (∀ task ∈ (empty.performAll steps).rows,
      ((∃ c ∈ task.title.toList, Text.isBlank c = false) ∧ task.title.length ≤ 256) ∧
      (task.recurrence = "" ∨ ∃ rule, Rule.parse task.recurrence = .ok rule) ∧
      (∃ rule, task.rule? = .ok rule) ∧ 0 < task.id) ∧
    ((empty.performAll steps).rows.map Task.id).Nodup ∧
    (∀ now id e u, (empty.performAll steps).perform now (.complete id) ≠ (.error (.schedule (.rule e)), u)) ∧
    (∀ now draft task u, (empty.performAll steps).perform now (.add draft) = (.ok (.task task), u) →
      ∀ before, before <+: steps → ∀ row ∈ (empty.performAll before).rows, row.id < task.id) ∧
    ∀ before between, before ++ between <+: steps → ∀ row ∈ (empty.performAll before).rows,
      (empty.performAll (before ++ between)).find? row.id = none →
      (empty.performAll steps).find? row.id = none := by
  have horder := isInOrder_performAll isInOrder_empty steps
  refine ⟨?_, (empty.performAll steps).ids_distinct, ?_, ?_, ?_⟩
  · intro task htask
    have htask := horder task htask
    exact ⟨htask.title, htask.recurrence, htask.exists_rule?, htask.id_pos⟩
  · intro now id e u h
    have hcomplete := map_eq_error_iff.1 (perform_eq_error_iff.1 h).1
    exact complete_ne_rule_error horder e hcomplete
  · rintro now draft task u h before ⟨rest, rfl⟩ row hrow
    obtain ⟨⟨added, v⟩, hadd, ⟨⟩⟩ := map_eq_ok_iff.1 (perform_eq_ok_iff.1 h)
    obtain ⟨prepared, -, hinsert⟩ := add_eq_ok_iff.1 hadd
    obtain ⟨-, rfl, -, -⟩ := insertNew?_eq_some_iff.1 hinsert
    have hle := id_le_highestId_performAll hrow rest
    rw [← performAll_append] at hle
    exact Int.lt_add_one_of_le hle
  · rintro before between ⟨rest, rfl⟩ row hrow hfree
    have hle := id_le_highestId_performAll hrow between
    rw [← performAll_append] at hle
    rw [performAll_append]
    exact (isRetired_performAll ⟨hle, hfree⟩ rest).2

/-- A task that is done once is added, done and added again: it comes back under another number. -/
theorem run_keeps_order_added_again :
    let now : Moment := .midnight ((Date.of? 2025 3 10).get (by decide))
    let draft : TaskDraft := ⟨"Rent", "", "flat", ""⟩
    let steps : List (Moment × Request) := [(now, .add draft), (now, .complete 1)]
    (∃ row ∈ (empty.performAll (steps.take 1)).rows, row.id = 1) ∧ (empty.performAll steps).find? 1 = none ∧
      ∃ task u, (empty.performAll steps).perform now (.add draft) = (.ok (.task task), u) ∧ 1 < task.id := by
  intro now draft steps
  have hstored : ∃ row ∈ (empty.performAll (steps.take 1)).rows, row.id = 1 := by decide +kernel
  have hgone : (empty.performAll steps).find? 1 = none := by decide +kernel
  have hanswer : ((empty.performAll steps).perform now (.add draft)).1 =
      .ok (.task ⟨2, "20250310", "Rent", "flat", ""⟩) := by decide +kernel
  obtain ⟨u, hadd⟩ : ∃ u, (empty.performAll steps).perform now (.add draft) = (.ok (.task _), u) :=
    ⟨_, Prod.ext hanswer rfl⟩
  obtain ⟨-, -, -, hbeyond, -⟩ := run_keeps_order steps
  obtain ⟨row, hrow, hid⟩ := hstored
  have hlt := hbeyond now draft _ _ hadd _ (List.take_prefix 1 steps) row hrow
  exact ⟨⟨row, hrow, hid⟩, hgone, _, _, hadd, hid ▸ hlt⟩

end Table

end Agenda
