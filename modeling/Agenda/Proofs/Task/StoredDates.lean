import Agenda.Proofs.Task.Operation
import Mathlib.Data.List.Induction

/-!
# Dates that stay readable

A stored date is text, and only the days of the years from 0 to 9999 have a text that can be read back.  An
operation that stores a day of a later year makes its task unreadable; no other operation does.

* `Table.newDay?` — the day on which an operation puts its task.
* `Table.StoresDay` — a change of a table that brings in the text of one day and no other date.
* `Table.exists_newDay?_of_attempt` — what a successful operation does to the dates.
* `Table.datesReadable_perform_iff` — one operation keeps the dates readable unless it passes the year 9999.
* `Table.datesReadable_iff_no_step_passes` — the same for every state of every sequence of operations.
-/

namespace Agenda

open Outcome

/-! ### The day of an operation -/

/-- The day under which a draft is stored. -/
def TaskDraft.day? (draft : TaskDraft) (now : Moment) : Option Date :=
  (Date.ofCompact? (requestedDate draft.date now)).bind fun day =>
    (recurrenceRule? draft.recurrence).toOption.bind fun rule => placedDay? rule now day

/-- The day to which a completion moves a task. -/
def Task.dayAfterCompletion? (task : Task) (today : Date) : Option Date :=
  (recurrenceRule? task.recurrence).toOption.join.bind fun rule =>
    (Date.ofCompact? task.date).bind fun day => rule.afterCompletion? today day

namespace Table

/-- The day on which an operation puts its task, if it puts one anywhere. -/
def newDay? (t : Table) (now : Moment) : Request → Option Date
  | .add draft => draft.day? now
  | .change id c => (t.find? id).bind fun task => (c.applyTo task).draft.day? now
  | .setDate _ date => Date.ofCompact? date
  | .complete id => (t.find? id).bind fun task => task.dayAfterCompletion? now.date
  | _ => none

/-- An operation that succeeds and puts its task on a day after the year 9999. -/
def PassesLastYear (t : Table) (now : Moment) (request : Request) : Prop :=
  (∃ answer u, t.attempt now request = .ok (answer, u)) ∧
    ∃ day, t.newDay? now request = some day ∧ 9999 < day.year

/-- Every stored date has eight digits and names a day. -/
def DatesReadable (t : Table) : Prop := ∀ task ∈ t.rows, Date.IsStoredDate task.date

/-- A change of a table that brings in the text of one day and no other date. -/
def StoresDay (t u : Table) (day : Date) : Prop :=
  (∃ row ∈ u.rows, row.date = day.compact) ∧ ∀ row ∈ u.rows, row ∈ t.rows ∨ row.date = day.compact

end Table

/-- A prepared draft has the text of its day, which is not in the past. -/
theorem TaskDraft.exists_day?_of_prepare {draft prepared : TaskDraft} {now : Moment}
    (h : draft.prepare now = .ok prepared) :
    ∃ day, draft.day? now = some day ∧ now.date ≤ day ∧ prepared.date = day.compact := by
  obtain ⟨-, -, date, hplace, rfl⟩ := prepare_eq_ok_iff.1 h
  obtain ⟨day, rule, placed, hday, hrule, hplaced, rfl⟩ := placeDate_eq_ok_iff.1 hplace
  refine ⟨placed, ?_, le_of_placedDay? hrule hplaced, rfl⟩
  rw [day?]
  rw [hday, hrule]
  exact hplaced

/-- A completion moves a repeating task to the text of its next day, which is after today. -/
theorem Task.exists_dayAfterCompletion? {task : Task} {rule : Rule} {now : Moment} {date : String}
    (hrule : recurrenceRule? task.recurrence = .ok (some rule))
    (h : Table.dateAfterCompletion now rule task.date = .ok date) :
    ∃ day, task.dayAfterCompletion? now.date = some day ∧ now.date < day ∧ date = day.compact := by
  obtain ⟨day, next, hday, hnext, rfl⟩ := Table.dateAfterCompletion_eq_ok_iff.1 h
  have hearliest := Rule.afterCompletion?_isEarliest
    (Rule.wellFormed_of_recurrenceRule? hrule).movesOn now.date day
  have hlater := (hearliest.eq_some_iff.1 hnext).1.2
  refine ⟨next, ?_, lt_of_le_of_lt (le_max_left _ _) hlater, rfl⟩
  rw [dayAfterCompletion?]
  rw [hrule, hday]
  exact hnext

namespace Table

variable {t u : Table} {now : Moment} {id : Int} {task old : Task} {day : Date} {request : Request}
  {answer : Answer}

/-! ### What a successful operation does to the dates -/

theorem storesDay_replace (hfound : t.find? id = some old) (hid : task.id = id)
    (hdate : task.date = day.compact) : t.StoresDay (t.replace task) day := by
  obtain ⟨hold, rfl⟩ := find?_eq_some_iff.1 hfound
  refine ⟨⟨task, (mem_replace hold hid.symm).2 (.inl rfl), hdate⟩, fun row hrow => ?_⟩
  rcases (mem_replace hold hid.symm).1 hrow with rfl | ⟨hmem, -⟩
  · exact .inr hdate
  · exact .inl hmem

theorem storesDay_of_add {draft : TaskDraft} (h : t.add now draft = .ok (task, u)) :
    ∃ day, draft.day? now = some day ∧ now.date ≤ day ∧ t.StoresDay u day := by
  obtain ⟨prepared, hprepare, hinsert⟩ := add_eq_ok_iff.1 h
  obtain ⟨day, hday, hle, hdate⟩ := TaskDraft.exists_day?_of_prepare hprepare
  obtain ⟨-, rfl, hrows, -⟩ := insertNew?_eq_some_iff.1 hinsert
  refine ⟨day, hday, hle, ?_⟩
  rw [StoresDay]
  rw [hrows]
  refine ⟨⟨_, List.mem_append_right _ List.mem_cons_self, hdate⟩, fun row hrow => ?_⟩
  rcases List.mem_append.1 hrow with hmem | hnew
  · exact .inl hmem
  · rw [List.mem_singleton.1 hnew]
    exact .inr hdate

theorem storesDay_of_change {c : TaskChange} (h : t.change now id c = .ok (task, u)) :
    ∃ old day, t.find? id = some old ∧ (c.applyTo old).draft.day? now = some day ∧ now.date ≤ day ∧
      t.StoresDay u day := by
  obtain ⟨old, prepared, hfound, hprepare, rfl, rfl⟩ := change_eq_ok_iff.1 h
  obtain ⟨day, hday, hle, hdate⟩ := TaskDraft.exists_day?_of_prepare hprepare
  exact ⟨old, day, hfound, hday, hle, storesDay_replace hfound rfl hdate⟩

/-- A completion takes its task out of the table or puts it on a day after today. -/
theorem storesDay_of_complete {done : Completion} (h : t.complete now id = .ok (done, u)) :
    ∃ old, t.find? id = some old ∧
      (old.dayAfterCompletion? now.date = none ∧ u = t.erase id ∨
        ∃ day, old.dayAfterCompletion? now.date = some day ∧ now.date < day ∧ t.StoresDay u day) := by
  obtain ⟨old, hfound, ⟨hrule, -, rfl⟩ | ⟨rule, date, hrule, hdate, -, rfl⟩⟩ := complete_eq_ok_iff.1 h
  · refine ⟨old, hfound, .inl ⟨?_, rfl⟩⟩
    rw [Task.dayAfterCompletion?, hrule]
    rfl
  · obtain ⟨day, hday, hlt, rfl⟩ := Task.exists_dayAfterCompletion? hrule hdate
    exact ⟨old, hfound, .inr ⟨day, hday, hlt, storesDay_replace hfound (find?_eq_some_iff.1 hfound).2 rfl⟩⟩

/-- **A successful operation brings in at most one new date**, the text of a day that is neither in the past
nor before the year 0. -/
theorem exists_newDay?_of_attempt (hnow : now.date.HasFourDigitYear)
    (h : t.attempt now request = .ok (answer, u)) :
    t.newDay? now request = none ∧ (∀ row ∈ u.rows, row ∈ t.rows) ∨
      ∃ day, t.newDay? now request = some day ∧ 0 ≤ day.year ∧ t.StoresDay u day := by
  have hyear : ∀ {day : Date}, now.date ≤ day → 0 ≤ day.year := fun hle =>
    hnow.1.trans (Date.year_le_of_le hle)
  cases request with
  | add draft =>
    obtain ⟨⟨task, u⟩, hadd, ⟨⟩⟩ := map_eq_ok_iff.1 h
    obtain ⟨day, hday, hle, hstores⟩ := storesDay_of_add hadd
    exact .inr ⟨day, hday, hyear hle, hstores⟩
  | change id c =>
    obtain ⟨⟨task, u⟩, hchange, ⟨⟩⟩ := map_eq_ok_iff.1 h
    obtain ⟨old, day, hfound, hday, hle, hstores⟩ := storesDay_of_change hchange
    refine .inr ⟨day, ?_, hyear hle, hstores⟩
    rw [newDay?, hfound]
    exact hday
  | setDate id date =>
    obtain ⟨u, hset, ⟨⟩⟩ := map_eq_ok_iff.1 h
    obtain ⟨hsome, old, hfound, rfl⟩ := setDate_eq_ok_iff.1 hset
    obtain ⟨day, hday⟩ := Option.isSome_iff_exists.1 hsome
    obtain ⟨hfour, hdate⟩ := Date.ofCompact?_eq_some_iff.1 hday
    exact .inr ⟨day, hday, hfour.1, storesDay_replace hfound (find?_eq_some_iff.1 hfound).2 hdate⟩
  | complete id =>
    obtain ⟨⟨done, u⟩, hcomplete, ⟨⟩⟩ := map_eq_ok_iff.1 h
    obtain ⟨old, hfound, ⟨hnone, rfl⟩ | ⟨day, hday, hlt, hstores⟩⟩ := storesDay_of_complete hcomplete
    · refine .inl ⟨?_, fun row hrow => (mem_erase.1 hrow).1⟩
      rw [newDay?, hfound]
      exact hnone
    · refine .inr ⟨day, ?_, hyear hlt.le, hstores⟩
      rw [newDay?, hfound]
      exact hday
  | delete id =>
    obtain ⟨u, hdelete, ⟨⟩⟩ := map_eq_ok_iff.1 h
    obtain ⟨old, -, rfl⟩ := delete_eq_ok_iff.1 hdelete
    exact .inl ⟨rfl, fun row hrow => (mem_erase.1 hrow).1⟩
  | find id =>
    cases h
    exact .inl ⟨rfl, fun _ hrow => hrow⟩
  | list limit =>
    cases h
    exact .inl ⟨rfl, fun _ hrow => hrow⟩
  | search term limit =>
    obtain ⟨found, -, ⟨⟩⟩ := map_eq_ok_iff.1 h
    exact .inl ⟨rfl, fun _ hrow => hrow⟩

/-! ### One operation -/

theorem passesLastYear_iff (h : t.attempt now request = .ok (answer, u)) :
    t.PassesLastYear now request ↔ ∃ day, t.newDay? now request = some day ∧ 9999 < day.year :=
  and_iff_right ⟨answer, u, h⟩

/-- An operation that fails stores nothing. -/
theorem not_passesLastYear_of_error {e : TaskError} (h : t.attempt now request = .error e) :
    ¬ t.PassesLastYear now request := by
  intro h'
  obtain ⟨⟨answer, u, hok⟩, -⟩ := h'
  rw [h] at hok
  cases hok

theorem not_passesLastYear_of_newDay? (h : t.newDay? now request = some day) (hyear : day.year ≤ 9999) :
    ¬ t.PassesLastYear now request := by
  intro h'
  obtain ⟨-, day', hday, hlt⟩ := h'
  rw [h, Option.some.injEq] at hday
  subst hday
  omega

/-- The dates of a table with the text of one more day are readable exactly if the day has a readable text. -/
theorem StoresDay.datesReadable_iff (h : t.StoresDay u day) (ht : t.DatesReadable) :
    u.DatesReadable ↔ day.HasFourDigitYear := by
  obtain ⟨⟨row, hrow, hdate⟩, hrows⟩ := h
  rw [← Date.isStoredDate_compact_iff]
  constructor
  · intro hu
    exact hdate ▸ hu row hrow
  · intro hday task htask
    rcases hrows task htask with hmem | htext
    · exact ht task hmem
    · exact htext ▸ hday

/-- **An operation keeps the dates readable exactly if it does not pass the year 9999.** -/
theorem datesReadable_perform_iff (ht : t.DatesReadable) (hnow : now.date.HasFourDigitYear) :
    (t.perform now request).2.DatesReadable ↔ ¬ t.PassesLastYear now request := by
  cases h : t.attempt now request with
  | error e =>
    have hsame : (t.perform now request).2 = t := perform_eq.2 (.inr ⟨⟨e, h⟩, rfl⟩)
    rw [hsame]
    exact iff_of_true ht (not_passesLastYear_of_error h)
  | ok result =>
    obtain ⟨answer, u⟩ := result
    have hafter : (t.perform now request).2 = u := perform_eq.2 (.inl ⟨answer, h⟩)
    rw [hafter, passesLastYear_iff h]
    rcases exists_newDay?_of_attempt hnow h with ⟨hnone, hrows⟩ | ⟨day, hday, hyear, hstores⟩
    · refine iff_of_true (fun task htask => ht task (hrows task htask)) ?_
      simp [hnone]
    · rw [hstores.datesReadable_iff ht, hday]
      simp only [Option.some.injEq, exists_eq_left', not_lt]
      exact and_iff_right hyear

/-! ### Sequences of operations -/

/-- The states of a sequence of operations that starts from a readable table stay readable exactly if no
operation passes the year 9999. -/
theorem datesReadable_performAll_iff (ht : t.DatesReadable) {steps : List (Moment × Request)}
    (hclock : ∀ step ∈ steps, step.1.date.HasFourDigitYear) :
    (∀ done, done <+: steps → (t.performAll done).DatesReadable) ↔
      ∀ done now request, done ++ [(now, request)] <+: steps →
        ¬ (t.performAll done).PassesLastYear now request := by
  -- the invariant of the induction is that all states so far are readable
  constructor
  · intro hread done now request hdone hpasses
    have hbefore := hread done ((List.prefix_append _ _).trans hdone)
    have hafter := hread _ hdone
    rw [performAll_append] at hafter
    have hnow := hclock _ (hdone.subset (List.mem_append_right _ List.mem_cons_self))
    exact (datesReadable_perform_iff hbefore hnow).1 hafter hpasses
  · intro hpass done
    induction done using List.reverseRecOn with
    | nil => exact fun _ => ht
    | append_singleton done step ih =>
      intro hdone
      obtain ⟨now, request⟩ := step
      have hbefore := ih ((List.prefix_append _ _).trans hdone)
      have hnow := hclock _ (hdone.subset (List.mem_append_right _ List.mem_cons_self))
      rw [performAll_append]
      exact (datesReadable_perform_iff hbefore hnow).2 (hpass done now request hdone)

/-! ### What readable dates are good for -/

theorem DatesReadable.exists_day (ht : t.DatesReadable) (hfound : t.find? id = some task) :
    ∃ day, Date.ofCompact? task.date = some day :=
  Option.isSome_iff_exists.1 (Date.isStoredDate_iff.1 (ht task (find?_eq_some_iff.1 hfound).1))

/-- A completion of a readable table never fails for a date that is stored in it. -/
theorem complete_ne_invalidStart (ht : t.DatesReadable) (text : String) :
    t.complete now id ≠ .error (.schedule (.invalidStart text)) := by
  intro h
  obtain ⟨old, hfound, ⟨fault, -, hfault⟩ | ⟨rule, -, hdate⟩⟩ := complete_eq_schedule_error_iff.1 h
  · cases hfault
  · obtain ⟨day, hday⟩ := ht.exists_day hfound
    rcases dateAfterCompletion_eq_error_iff.1 hdate with ⟨hnone, -⟩ | ⟨-, -, -, hend⟩
    · rw [hday] at hnone
      cases hnone
    · cases hend

/-- A change of a readable table that names no date never fails for the date that is stored. -/
theorem change_ne_invalidDate (ht : t.DatesReadable) {c : TaskChange} (hc : c.date = none) (text : String) :
    t.change now id c ≠ .error (.placement (.invalidDate text)) := by
  intro h
  obtain ⟨old, hfound, hprepare⟩ := change_eq_placement_error_iff.1 h
  obtain ⟨-, -, hplace⟩ := TaskDraft.prepare_eq_placement_error_iff.1 hprepare
  obtain ⟨hnone, -⟩ := placeDate_eq_invalidDate_iff.1 hplace
  obtain ⟨day, hday⟩ := ht.exists_day hfound
  have hdate : (c.applyTo old).draft.date = old.date := by
    show c.date.getD old.date = old.date
    rw [hc, Option.getD_none]
  rw [hdate, requestedDate_of_ofCompact? hday, hday] at hnone
  cases hnone

/-! ### Every sequence of operations -/

theorem datesReadable_empty : empty.DatesReadable := by
  intro task htask
  cases htask

/-- **The dates of a new table stay readable through all operations exactly if none of them passes the year
9999.**  In every state with readable dates a completion does not fail for the date of its task, and neither
does a change that leaves the date alone. -/
theorem datesReadable_iff_no_step_passes {steps : List (Moment × Request)}
    (hclock : ∀ step ∈ steps, step.1.date.HasFourDigitYear) :
    ((∀ done, done <+: steps → (empty.performAll done).DatesReadable) ↔
      ∀ done now request, done ++ [(now, request)] <+: steps →
        ¬ (empty.performAll done).PassesLastYear now request) ∧
    ∀ done, done <+: steps → (empty.performAll done).DatesReadable →
      (∀ now id text, (empty.performAll done).complete now id ≠ .error (.schedule (.invalidStart text))) ∧
      ∀ now id (c : TaskChange) text, c.date = none →
        (empty.performAll done).change now id c ≠ .error (.placement (.invalidDate text)) := by
  refine ⟨datesReadable_performAll_iff datesReadable_empty hclock, fun done _ hread => ⟨?_, ?_⟩⟩
  · exact fun now id text => complete_ne_invalidStart hread text
  · exact fun now id c text hc => change_ne_invalidDate hread hc text

/-- The dates stay readable while a task that is done each day is added and done once. -/
theorem datesReadable_of_daily_task :
    let now : Moment :=
      .midnight ⟨2025, 3, 10, by decide, by decide, by decide, by decide, by decide, by decide⟩
    let steps : List (Moment × Request) := [(now, .add ⟨"Journal", "", "", "d 1"⟩), (now, .complete 1)]
    ∀ done, done <+: steps → (empty.performAll done).DatesReadable := by
  intro now steps
  refine (datesReadable_iff_no_step_passes (by decide)).1.2 ?_
  intro done now' request hdone
  cases done with
  | nil =>
    obtain ⟨⟨⟩, -⟩ := List.cons_prefix_cons.1 hdone
    have hday : empty.newDay? now (.add ⟨"Journal", "", "", "d 1"⟩) = some now.date := by decide +kernel
    exact not_passesLastYear_of_newDay? hday (by decide)
  | cons step done =>
    obtain ⟨rfl, hrest⟩ := List.cons_prefix_cons.1 hdone
    cases done with
    | nil =>
      obtain ⟨⟨⟩, -⟩ := List.cons_prefix_cons.1 hrest
      have hday : (empty.performAll [(now, .add ⟨"Journal", "", "", "d 1"⟩)]).newDay? now (.complete 1) =
          some ⟨2025, 3, 11, by decide, by decide, by decide, by decide, by decide, by decide⟩ := by
        decide +kernel
      exact not_passesLastYear_of_newDay? hday (by decide)
    | cons step done => exact absurd (List.cons_prefix_cons.1 hrest).2.length_le (by simp)

/-- A task that is done each day moves from the last day of the year 9999 to a date that cannot be read
back, and then it cannot be done any more. -/
theorem dates_unreadable_after_year_9999 :
    let now : Moment :=
      .midnight ⟨2025, 3, 10, by decide, by decide, by decide, by decide, by decide, by decide⟩
    let steps : List (Moment × Request) :=
      [(now, .add ⟨"Journal", "99991231", "", "d 1"⟩), (now, .complete 1)]
    (∀ step ∈ steps, step.1.date.HasFourDigitYear) ∧ ¬ (empty.performAll steps).DatesReadable ∧
      (empty.performAll steps).complete now 1 = .error (.schedule (.invalidStart "+100000101")) := by
  intro now steps
  have hfound : (empty.performAll steps).find? 1 = some ⟨1, "+100000101", "Journal", "", "d 1"⟩ := by
    decide +kernel
  refine ⟨by decide, fun hread => ?_, ?_⟩
  · have hstored := hread _ (find?_eq_some_iff.1 hfound).1
    exact absurd hstored.1 (by decide)
  · have hrule : recurrenceRule? "d 1" = .ok (some (.daily 1)) := by decide
    have hdate : Date.ofCompact? "+100000101" = none := by decide
    refine complete_eq_schedule_error_iff.2 ⟨_, hfound, .inr ⟨.daily 1, hrule, ?_⟩⟩
    exact dateAfterCompletion_eq_error_iff.2 (.inl ⟨hdate, rfl⟩)

end Table

end Agenda
