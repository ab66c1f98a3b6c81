import Agenda.Proofs.Task.Statements

/-!
# What an operation does to the table

An operation that fails leaves the table as it is.  One that succeeds changes what is found under one number
and nothing else: it puts a row there, overwrites the row, or takes it out.  Which of them it does, and how
much of the row it overwrites, is said here for every operation.  The rows may be anything, whoever wrote
them.

* `Table.Sets`, `Table.Effect` — the tables that an operation may leave.
* `Task.HasNoNextDate` — why a repeating task cannot be completed.
* `Table.perform_effect` — every operation, on every table.
-/

namespace Agenda

open Outcome

/-- A repeating task cannot go on: its rule or its date cannot be read, or no day of its rule is left in the
calendar after today and after its date. -/
inductive Task.HasNoNextDate (today : Date) (task : Task) : Prop
  | rule {e : RuleError} : Rule.parse task.recurrence = .error e → HasNoNextDate today task
  | date : Date.ofCompact? task.date = none → HasNoNextDate today task
  | calendar {rule : Rule} {day : Date} : Rule.parse task.recurrence = .ok rule →
      Date.ofCompact? task.date = some day → (∀ d, rule.OccursOn day d → d ≤ max today day) →
      HasNoNextDate today task

namespace Table

/-- A row is put under a number, or none is left there.  What is found under any other number and the next
number stay the same. -/
structure Sets (t : Table) (id : Int) (found : Option Task) (u : Table) : Prop where
  rows : u.find? = Function.update t.find? id found
  next : u.nextId? = t.nextId?

/-- What an operation that succeeds does to a table `t`, with its answer and the table that it leaves. -/
inductive Effect (t : Table) : Request → Answer → Table → Prop
  /-- A new row gets the next number. -/
  | add {draft : TaskDraft} {task : Task} {u : Table} : t.nextId? = some task.id → t.find? task.id = none →
      u.find? = Function.update t.find? task.id (some task) → Effect t (.add draft) (.task task) u
  | find {id : Int} : Effect t (.find id) (.found (t.find? id)) t
  | list {limit : Nat} : Effect t (.list limit) (.tasks (t.list limit)) t
  | search {term : String} {limit : Nat} {tasks : List Task} : t.search term limit = .ok tasks →
      Effect t (.search term limit) (.tasks tasks) t
  | change {id : Int} {c : TaskChange} {old task : Task} {u : Table} : t.find? id = some old → task.id = id →
      t.Sets id (some task) u → Effect t (.change id c) (.task task) u
  /-- Only the date of a row changes. -/
  | setDate {id : Int} {date : String} {old : Task} {u : Table} : t.find? id = some old →
      t.Sets id (some { old with date := date }) u → Effect t (.setDate id date) .done u
  | delete {id : Int} {old : Task} {u : Table} : t.find? id = some old → t.Sets id none u →
      Effect t (.delete id) .done u
  /-- A task that is done once is gone. -/
  | complete {id : Int} {old : Task} {u : Table} : t.find? id = some old → old.recurrence = "" →
      t.Sets id none u → Effect t (.complete id) (.completion (.removed old)) u
  /-- Only the date of a repeating task changes. -/
  | reschedule {id : Int} {old : Task} {date : String} {u : Table} : t.find? id = some old →
      old.recurrence ≠ "" → t.Sets id (some { old with date := date }) u →
      Effect t (.complete id) (.completion (.rescheduled { old with date := date } old.date)) u

variable {t u : Table} {now : Moment} {id : Int} {task : Task}

theorem sets_replace {old : Task} (h : t.find? id = some old) (hid : task.id = id) :
    t.Sets id (some task) (t.replace task) := ⟨find?_replace h hid, rfl⟩

theorem sets_erase (t : Table) (id : Int) : t.Sets id none (t.erase id) := ⟨find?_erase t id, rfl⟩

theorem effect_of_add {draft : TaskDraft} (h : t.add now draft = .ok (task, u)) :
    Effect t (.add draft) (.task task) u := by
  obtain ⟨prepared, -, hnew⟩ := add_eq_ok_iff.1 h
  obtain ⟨hnext, hfree, hfound⟩ := find?_of_insertNew? hnew
  exact .add hnext hfree hfound

theorem effect_of_change {c : TaskChange} (h : t.change now id c = .ok (task, u)) :
    Effect t (.change id c) (.task task) u := by
  obtain ⟨old, prepared, hold, -, rfl, rfl⟩ := change_eq_ok_iff.1 h
  exact .change hold rfl (sets_replace hold rfl)

theorem effect_of_setDate {date : String} (h : t.setDate id date = .ok u) :
    Effect t (.setDate id date) .done u := by
  obtain ⟨-, old, hold, rfl⟩ := setDate_eq_ok_iff.1 h
  exact .setDate hold (sets_replace hold (find?_eq_some_iff.1 hold).2)

theorem effect_of_delete (h : t.delete id = .ok u) : Effect t (.delete id) .done u := by
  obtain ⟨old, hold, rfl⟩ := delete_eq_ok_iff.1 h
  exact .delete hold (sets_erase t id)

theorem effect_of_complete {done : Completion} (h : t.complete now id = .ok (done, u)) :
    Effect t (.complete id) (.completion done) u := by
  obtain ⟨old, hold, ⟨hrule, rfl, rfl⟩ | ⟨rule, date, hrule, -, rfl, rfl⟩⟩ := complete_eq_ok_iff.1 h
  · exact .complete hold (recurrenceRule?_eq_ok_none_iff.1 hrule) (sets_erase t id)
  · have hrepeats : old.recurrence ≠ "" := by
      intro hempty
      rw [recurrenceRule?_eq_ok_none_iff.2 hempty] at hrule
      cases hrule
    exact .reschedule hold hrepeats (sets_replace hold (find?_eq_some_iff.1 hold).2)

/-- Every operation that succeeds has its effect. -/
theorem effect_of_attempt {request : Request} {answer : Answer}
    (h : t.attempt now request = .ok (answer, u)) : Effect t request answer u := by
  cases request with
  | add draft =>
    obtain ⟨⟨task, v⟩, hadd, heq⟩ := map_eq_ok_iff.1 h
    cases heq
    exact effect_of_add hadd
  | find id =>
    cases h
    exact .find
  | list limit =>
    cases h
    exact .list
  | search term limit =>
    obtain ⟨tasks, hsearch, heq⟩ := map_eq_ok_iff.1 h
    cases heq
    exact .search hsearch
  | change id c =>
    obtain ⟨⟨task, v⟩, hchange, heq⟩ := map_eq_ok_iff.1 h
    cases heq
    exact effect_of_change hchange
  | setDate id date =>
    obtain ⟨v, hset, heq⟩ := map_eq_ok_iff.1 h
    cases heq
    exact effect_of_setDate hset
  | delete id =>
    obtain ⟨v, hdelete, heq⟩ := map_eq_ok_iff.1 h
    cases heq
    exact effect_of_delete hdelete
  | complete id =>
    obtain ⟨⟨done, v⟩, hcomplete, heq⟩ := map_eq_ok_iff.1 h
    cases heq
    exact effect_of_complete hcomplete

/-- **A repeating task cannot be completed exactly if it has no next date.** -/
theorem complete_fails_iff (hfound : t.find? id = some task) (hrepeats : task.recurrence ≠ "") :
    (∃ e, t.complete now id = .error (.schedule e)) ↔ task.HasNoNextDate now.date := by
  simp only [complete_eq_schedule_error_iff, hfound, Option.some.injEq, exists_eq_left']
  constructor
  · rintro ⟨e, ⟨fault, hrule, -⟩ | ⟨rule, hrule, hdate⟩⟩
    · exact .rule (recurrenceRule?_eq_error_iff.1 hrule).2
    have hparse := recurrenceRule?_eq_ok_some_iff.1 hrule
    rcases dateAfterCompletion_eq_error_iff.1 hdate with ⟨hday, -⟩ | ⟨day, hday, hnone, -⟩
    · exact .date hday
    · have hmoves := (Rule.wellFormed_of_parse hparse).movesOn
      exact .calendar hparse hday ((Rule.afterCompletion?_eq_none_iff hmoves).1 hnone)
  · intro h
    cases h with
    | rule hparse => exact ⟨_, .inl ⟨_, recurrenceRule?_eq_error_iff.2 ⟨hrepeats, hparse⟩, rfl⟩⟩
    | date hday =>
      cases hrule : recurrenceRule? task.recurrence with
      | error fault => exact ⟨_, .inl ⟨fault, rfl, rfl⟩⟩
      | ok rule =>
        cases rule with
        | none => exact absurd (recurrenceRule?_eq_ok_none_iff.1 hrule) hrepeats
        | some rule => exact ⟨_, .inr ⟨rule, rfl, dateAfterCompletion_eq_error_iff.2 (.inl ⟨hday, rfl⟩)⟩⟩
    | @calendar rule day hparse hday hlast =>
      have hmoves := (Rule.wellFormed_of_parse hparse).movesOn
      have hnone := (Rule.afterCompletion?_eq_none_iff hmoves).2 hlast
      exact ⟨_, .inr ⟨rule, recurrenceRule?_eq_ok_some_iff.2 hparse,
        dateAfterCompletion_eq_error_iff.2 (.inr ⟨day, hday, hnone, rfl⟩)⟩⟩

/-- **Every operation has all of its effect or none**, on every table and with any arguments.  Carried out
statement by statement it leaves the same table.  If it fails, the rows and the next number are as they were;
completing a repeating task without a next date is such a failure. -/
theorem perform_effect (t : Table) (now : Moment) (request : Request) :
    (request.script now).run t = t.perform now request ∧
      (∀ e u, t.perform now request = (.error e, u) → u = t) ∧
      (∀ answer u, t.perform now request = (.ok answer, u) → Effect t request answer u) ∧
      ∀ id task, request = .complete id → t.find? id = some task → task.recurrence ≠ "" →
        ((∃ e, t.perform now request = (.error (.schedule e), t)) ↔ task.HasNoNextDate now.date) := by
  refine ⟨request.run_script now t, ?_, ?_, ?_⟩
  · intro e u h
    exact (perform_eq_error_iff.1 h).2
  · intro answer u h
    exact effect_of_attempt (perform_eq_ok_iff.1 h)
  · intro id task hrequest hfound hrepeats
    subst hrequest
    rw [← complete_fails_iff hfound hrepeats]
    refine exists_congr fun e => ?_
    rw [perform_eq_error_iff, and_iff_left rfl]
    exact map_eq_error_iff

/-- Beside a row with a recurrence that is no rule, a task that is done once is completed; that row stays. -/
theorem perform_effect_beside_foreign_row :
    let now : Moment :=
      .midnight ⟨2025, 3, 10, by decide, by decide, by decide, by decide, by decide, by decide⟩
    let once : Task := ⟨3, "20250310", "Rent", "", ""⟩
    let foreign : Task := ⟨7, "someday", "Gym", "", "every week"⟩
    let t : Table := ⟨[once, foreign], 7, by decide, by decide, by decide⟩
    (∃ e, t.perform now (.complete 7) = (.error (.schedule e), t)) ∧
      ∃ u, t.perform now (.complete 3) = (.ok (.completion (.removed once)), u) ∧
        u.find? 3 = none ∧ u.find? 7 = some foreign := by
  intro now once foreign t
  obtain ⟨-, -, -, hfails⟩ := perform_effect t now (.complete 7)
  obtain ⟨-, -, hsucceeds, -⟩ := perform_effect t now (.complete 3)
  have hrule : Rule.parse "every week" = .error (.unsupportedKind "every") := by decide +kernel
  refine ⟨(hfails 7 foreign rfl (by decide) (by decide)).2 (.rule hrule), ?_⟩
  have hcomplete : t.perform now (.complete 3) = (.ok (.completion (.removed once)), t.erase 3) := rfl
  refine ⟨_, hcomplete, ?_⟩
  cases hsucceeds _ _ hcomplete with
  | complete hold hempty hsets =>
    rw [hsets.rows]
    exact ⟨Function.update_self .., Function.update_of_ne (by decide) ..⟩

end Table

end Agenda
