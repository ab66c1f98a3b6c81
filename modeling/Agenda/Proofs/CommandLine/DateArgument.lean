import Agenda.CommandLine.Run
import Agenda.Proofs.Calendar.Spoken
import Agenda.Proofs.Task.Statements
import Agenda.Proofs.Task.Storing

/-!
# Date arguments that name no day

A date argument without a meaning is handed on, and whoever reads the date reports it.  So adding a task and
editing one fail on it, unless something else is reported first.  Blanks are an exception: nothing is left of
them, and a task without a date is dated today.

* `ReportsDate`, `ReportsArgument` — what it means that a date argument is reported.
* `reportsArgument` — such an argument is, unless it is blank.
* `TakesAsToday`, `takesAsToday_of_blank` — blanks do what the word `today` does.
* `dateArgument_spelled_or_passed` — the whole reading of date arguments.
-/

namespace Agenda

open Text

/-! ### Blank arguments -/

section

variable {input : String} {today : Date}

theorem Date.compact_ne_empty (d : Date) : d.compact ≠ "" := by
  intro h
  have hmonth := le_length_padded 2 d.month
  have hlength : (writtenYear d.year ++ padded 2 d.month ++ padded 2 d.day).length = 0 :=
    congrArg List.length (String.ofList_injective h)
  rw [List.length_append, List.length_append] at hlength
  omega

theorem resolveDate_of_blank (h : IsBlankText input.toList) : resolveDate input today = "" := by
  have htrim : trim input.toList = trim "".toList := trim_eq_nil_iff.2 h
  rw [resolveDate_congr htrim]
  rfl

/-- Blanks spell no day. -/
theorem not_spells_of_blank (h : IsBlankText input.toList) (d : Date) :
    ¬ Spells today (trim input.toList) d := by
  intro hspells
  have hcompact := resolveDate_of_spells hspells
  rw [resolveDate_of_blank h] at hcompact
  exact d.compact_ne_empty hcompact.symm

theorem resolveDate_word_today (today : Date) : resolveDate "today" today = today.compact :=
  resolveDate_of_today (map_toLower_eq_today_iff.1 (by decide))

end

/-- A draft without a date is prepared as one for today. -/
theorem TaskDraft.prepare_of_no_date (title comment recurrence : String) (now : Moment) :
    prepare now ⟨title, "", comment, recurrence⟩ = prepare now ⟨title, now.date.compact, comment, recurrence⟩ := by
  have hrequested : requestedDate "" now = requestedDate now.date.compact now := by
    rw [requestedDate, requestedDate, if_pos rfl, if_neg now.date.compact_ne_empty]
  simp only [prepare, placeDate, hrequested]

namespace CommandLine

/-! ### Reports of dates -/

/-- The outcome of storing a draft with an unreadable date: the date is reported, unless the title or the
recurrence is. -/
structure ReportsDate (text : String) (draft : TaskDraft) (outcome : Except TaskError (Report × Table)) : Prop where
  fails : ∃ e, draft.FirstFault e ∧ outcome = .error e
  reported : draft.HasTitle → draft.HasRecurrence → outcome = .error (.placement (.invalidDate text))

theorem reportsDate_of_date (now : Moment) {text : String} {draft : TaskDraft}
    {outcome : Except TaskError (Report × Table)} (htext : draft.date = text) (hne : text ≠ "")
    (hdate : Date.ofCompact? text = none) (h : ∀ e, draft.prepare now = .error e → outcome = .error e) :
    ReportsDate text draft outcome := by
  subst htext
  constructor
  · rcases draft.storable_or_firstFault with hstorable | ⟨e, he⟩
    · rcases hstorable.date with hempty | ⟨day, hday⟩
      · exact absurd hempty hne
      · rw [hdate] at hday
        cases hday
    · exact ⟨e, he, h e (TaskDraft.prepare_of_firstFault he)⟩
  · intro htitle hrecurrence
    exact h _ (TaskDraft.prepare_of_firstFault (.date htitle hrecurrence hne hdate))

/-- Adding and editing report a date argument, without the blanks at its ends.  Editing a task that does not
exist reports the task. -/
structure ReportsArgument (input : String) (today : Date) : Prop where
  add : ∀ settings now answer? table title comment recurrence, now.date = today →
    ReportsDate (trimmed input) (addedDraft today title (some input) comment recurrence)
      ((TaskCommand.add title (some input) comment recurrence).perform settings now answer? table)
  edit : ∀ settings now answer? table id title comment clearComment recurrence clearRecurrence, now.date = today →
    let c := TaskCommand.edit id title (some input) comment clearComment recurrence clearRecurrence
    let change := editChange today title (some input) comment clearComment recurrence clearRecurrence
    table.find? id = none ∧ c.perform settings now answer? table = .error (.notFound id) ∨
      ∃ old, table.find? id = some old ∧
        ReportsDate (trimmed input) (change.applyTo old).draft (c.perform settings now answer? table)

/-- Adding and editing take a date argument for the word `today`. -/
structure TakesAsToday (input : String) (today : Date) : Prop where
  add : ∀ settings now answer? table title comment recurrence, now.date = today →
    (TaskCommand.add title (some input) comment recurrence).perform settings now answer? table =
      (TaskCommand.add title (some "today") comment recurrence).perform settings now answer? table
  edit : ∀ settings now answer? table id title comment clearComment recurrence clearRecurrence, now.date = today →
    (TaskCommand.edit id title (some input) comment clearComment recurrence clearRecurrence).perform
        settings now answer? table =
      (TaskCommand.edit id title (some "today") comment clearComment recurrence clearRecurrence).perform
        settings now answer? table

section

variable {settings : Settings} {now : Moment} {answer? : Option Bool} {table : Table} {input : String}
  {today : Date}

theorem perform_add (title : String) (date comment recurrence : Option String) :
    (TaskCommand.add title date comment recurrence).perform settings now answer? table =
      (table.add now (addedDraft now.date title date comment recurrence)).map
        fun (task, after) => (.added task, after) := by
  simp only [TaskCommand.perform, TaskCommand.act, Repository.ofTable, Procedure.run_bind, Procedure.run_changing]
  cases table.add now (addedDraft now.date title date comment recurrence) <;> rfl

theorem perform_edit (id : Int) (title comment : Option String) (clearComment : Bool)
    (recurrence : Option String) (clearRecurrence : Bool) :
    (TaskCommand.edit id title (some input) comment clearComment recurrence clearRecurrence).perform
        settings now answer? table =
      (table.change now id
        (editChange now.date title (some input) comment clearComment recurrence clearRecurrence)).map
          fun (task, after) => (.changed task, after) := by
  have hnamed : (editChange now.date title (some input) comment clearComment recurrence
      clearRecurrence).isEmpty = false := by
    simp [TaskChange.isEmpty, editChange]
  simp only [TaskCommand.perform, TaskCommand.act, Repository.ofTable, hnamed, Bool.false_eq_true, if_false,
    Procedure.run_bind, Procedure.run_pure, Procedure.run_changing]
  cases table.change now id
    (editChange now.date title (some input) comment clearComment recurrence clearRecurrence) <;> rfl

/-- **A date argument that names no day is reported**, unless it is blank. -/
theorem reportsArgument (h : ∀ d, ¬ Spells today (trim input.toList) d) (hblank : ¬ IsBlankText input.toList) :
    ReportsArgument input today := by
  have hpassed := resolveDate_of_not_spells h
  have hne : trimmed input ≠ "" := mt trimmed_eq_empty_iff.1 hblank
  have hdate := ofCompact?_resolveDate_of_not_spells h
  rw [hpassed] at hdate
  constructor
  · rintro settings now answer? table title comment recurrence rfl
    refine reportsDate_of_date now hpassed hne hdate fun e he => ?_
    rw [perform_add, Table.add_of_prepare_error he]
    rfl
  · rintro settings now answer? table id title comment clearComment recurrence clearRecurrence rfl
    intro c change
    rw [perform_edit]
    cases hfound : table.find? id with
    | none =>
      refine .inl ⟨rfl, ?_⟩
      rw [Table.change, Table.get_eq_error_iff.2 ⟨hfound, rfl⟩]
      rfl
    | some old =>
      refine .inr ⟨old, rfl, reportsDate_of_date now hpassed hne hdate fun e he => ?_⟩
      rw [Table.change_of_prepare_error hfound he]
      rfl

/-- **Blanks do what the word `today` does.** -/
theorem takesAsToday_of_blank (h : IsBlankText input.toList) : TakesAsToday input today := by
  constructor
  · rintro settings now answer? table title comment recurrence rfl
    have hprepare : (addedDraft now.date title (some input) comment recurrence).prepare now =
        (addedDraft now.date title (some "today") comment recurrence).prepare now := by
      simp only [addedDraft, Option.elim_some, resolveDate_of_blank h, resolveDate_word_today]
      exact TaskDraft.prepare_of_no_date ..
    rw [perform_add, perform_add, Table.add, Table.add, hprepare]
  · rintro settings now answer? table id title comment clearComment recurrence clearRecurrence rfl
    have hprepare : ∀ old : Task,
        ((editChange now.date title (some input) comment clearComment recurrence clearRecurrence).applyTo
            old).draft.prepare now =
          ((editChange now.date title (some "today") comment clearComment recurrence clearRecurrence).applyTo
            old).draft.prepare now := by
      intro old
      simp only [editChange, Option.map_some, resolveDate_of_blank h, resolveDate_word_today]
      exact TaskDraft.prepare_of_no_date ..
    rw [perform_edit, perform_edit]
    simp only [Table.change, hprepare]

end

/-- **The whole reading of date arguments.**  A date argument is read as a day exactly if the year has four digits
and the argument, without the blanks at its ends, is one of the spellings of the day.  Resolving once is enough.
A text that spells no day is passed on without the blanks at its ends, and adding and editing report it.  Blanks
alone are refused where a day is to be read, but adding and editing do with them what they do with `today`. -/
theorem dateArgument_spelled_or_passed (today : Date) :
    (∀ input d, readDateArgument input today = .ok d ↔
      (0 ≤ d.year ∧ d.year ≤ 9999) ∧ Spells today (trim input.toList) d) ∧
    (∀ input, resolveDate (resolveDate input today) today = resolveDate input today) ∧
    ∀ input, (∀ d, ¬ Spells today (trim input.toList) d) →
      resolveDate input today = trimmed input ∧
      readDateArgument input today = .error (.invalidInput (.notADate input)) ∧
      (¬ IsBlankText input.toList → ReportsArgument input today) ∧
      (IsBlankText input.toList → resolveDate input today = "" ∧ TakesAsToday input today) := by
  refine ⟨fun input d => readDateArgument_eq_ok_iff, fun input => resolveDate_resolveDate input today, ?_⟩
  intro input h
  refine ⟨resolveDate_of_not_spells h, ?_, reportsArgument h, ?_⟩
  · rw [readDateArgument, ofCompact?_resolveDate_of_not_spells h]
  · exact fun hblank => ⟨resolveDate_of_blank hblank, takesAsToday_of_blank hblank⟩

/-- A word, a day that does not exist, and blanks. -/
theorem dateArgument_spelled_or_passed_in_spring :
    let today : Date := (Date.of? 2025 3 10).get (by decide)
    let now : Moment := .midnight today
    (∃ d, Date.of? 2025 3 11 = some d ∧ readDateArgument " tOMORROW\t" today = .ok d) ∧
      (∀ d, ¬ Spells today (trim " 31.02.2025".toList) d) ∧
      (TaskCommand.add "Rent" (some " 31.02.2025") none none).perform .standard now none .empty =
        .error (.placement (.invalidDate "31.02.2025")) ∧
      (∀ d, ¬ Spells today (trim "\t".toList) d) ∧
      (TaskCommand.add "Rent" (some "\t") none none).perform .standard now none .empty =
        (TaskCommand.add "Rent" (some "today") none none).perform .standard now none .empty := by
  intro today now
  have hnone : ∀ d, ¬ Spells today (trim " 31.02.2025".toList) d := by
    intro d hspells
    have hpassed : resolveDate " 31.02.2025" today = "31.02.2025" := by decide
    have hperiod : '.' ∈ d.compact.toList := by
      rw [← resolveDate_of_spells hspells, hpassed]
      decide
    exact absurd (Date.mem_compact hperiod) (by decide)
  have hblank : IsBlankText "\t".toList := by decide
  obtain ⟨hread, -, hpass⟩ := dateArgument_spelled_or_passed today
  obtain ⟨-, -, hreports, -⟩ := hpass " 31.02.2025" hnone
  obtain ⟨-, -, -, htakes⟩ := hpass "\t" (not_spells_of_blank hblank)
  refine ⟨⟨(Date.of? 2025 3 11).get (by decide), by decide, ?_⟩, hnone, ?_, not_spells_of_blank hblank,
    (htakes hblank).2.add _ now _ _ _ _ _ rfl⟩
  · exact (hread _ _).2 ⟨by decide, .tomorrow (map_toLower_eq_tomorrow_iff.1 (by decide)) (by decide)⟩
  · exact ((hreports (by decide)).add .standard now none .empty "Rent" none none rfl).reported
      (by decide) (.inl rfl)

/-- A blank date argument spells no day, but nothing reports it: the task is stored under today. -/
theorem blank_dateArgument_is_stored :
    let today : Date := (Date.of? 2025 3 10).get (by decide)
    (∀ d, ¬ Spells today (trim " ".toList) d) ∧ resolveDate " " today = "" ∧
      ((TaskCommand.add "t0" (some " ") none none).perform .standard (.midnight today) none .empty).map Prod.fst =
        .ok (.added ⟨1, "20250310", "t0", "", ""⟩) := by
  intro today
  exact ⟨not_spells_of_blank (by decide), by decide, by decide⟩

end CommandLine

end Agenda
