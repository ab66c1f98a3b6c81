import Agenda.Proofs.Calendar.Codec
import Agenda.Proofs.Outcome
import Agenda.Proofs.Rule.Occurrence
import Agenda.Proofs.Rule.Reading
import Agenda.Task.Placement

/-!
# Where a task is placed

The next date and the placement of a task, told with dates and rules instead of texts.

* `nextDate_of_parse_ok`, `nextDate_of_parse_error` — the next date for a start that can be read.
* `recurrenceRule?`, `placedDay?` — the rule that a text stands for, and the day on which a task with this
  rule is placed.
* `placeDate_eq`, `placeDate_eq_ok_iff` — the text that is stored is that of this day.
-/

namespace Agenda

open Outcome

/-! ### The next date of a written start -/

section NextDate

variable {now : Moment} {start recurrence : String} {day : Date}

theorem nextDate_of_parse_ok {rule : Rule} (hne : recurrence ≠ "")
    (hstart : Date.ofCompact? start = some day) (hrule : Rule.parse recurrence = .ok rule) :
    nextDate now start recurrence = (withinCalendar (rule.nextAfter? now day)).map Date.compact := by
  rw [nextDate, readStart]
  rw [if_neg hne, hstart, hrule]
  show (withinCalendar (rule.nextAfter? now day) >>= fun next => pure next.compact) = _
  cases rule.nextAfter? now day <;> rfl

theorem nextDate_of_parse_error {e : RuleError} (hne : recurrence ≠ "")
    (hstart : Date.ofCompact? start = some day) (hrule : Rule.parse recurrence = .error e) :
    nextDate now start recurrence = .error (.rule e) := by
  rw [nextDate, readStart]
  rw [if_neg hne, hstart, hrule]
  rfl

end NextDate

/-! ### The day of a task -/

/-- A date that can be read is the one that is asked for. -/
theorem requestedDate_of_ofCompact? {date : String} {now : Moment} {day : Date}
    (h : Date.ofCompact? date = some day) : requestedDate date now = date := by
  rw [requestedDate, if_neg]
  intro hempty
  rw [hempty] at h
  cases h

/-- The rule that a recurrence text stands for; the empty text stands for none. -/
def recurrenceRule? (recurrence : String) : Except RuleError (Option Rule) :=
  if recurrence = "" then .ok none else (Rule.parse recurrence).map some

theorem recurrenceRule?_eq_ok_none_iff {recurrence : String} :
    recurrenceRule? recurrence = .ok none ↔ recurrence = "" := by
  rw [recurrenceRule?]
  by_cases hempty : recurrence = ""
  · simp [hempty]
  · simp [hempty, map_eq_ok_iff]

theorem recurrenceRule?_eq_ok_some_iff {recurrence : String} {rule : Rule} :
    recurrenceRule? recurrence = .ok (some rule) ↔ Rule.parse recurrence = .ok rule := by
  rw [recurrenceRule?]
  by_cases hempty : recurrence = ""
  · simp [hempty, Rule.parse_empty]
  · simp [hempty, map_eq_ok_iff]

theorem recurrenceRule?_eq_error_iff {recurrence : String} {e : RuleError} :
    recurrenceRule? recurrence = .error e ↔ recurrence ≠ "" ∧ Rule.parse recurrence = .error e := by
  rw [recurrenceRule?]
  by_cases hempty : recurrence = ""
  · simp [hempty]
  · cases hparse : Rule.parse recurrence <;> simp [hempty, Except.map]

theorem Rule.wellFormed_of_recurrenceRule? {recurrence : String} {rule : Rule}
    (h : recurrenceRule? recurrence = .ok (some rule)) : rule.WellFormed :=
  wellFormed_of_parse (recurrenceRule?_eq_ok_some_iff.1 h)

/-- The day on which a task is placed: a day to come stays, a past day of a task that is done once becomes
today, and a day of a repeating task that is not to come becomes the next occurrence. -/
def placedDay? (rule : Option Rule) (now : Moment) (day : Date) : Option Date :=
  match rule with
  | none => some (max day now.date)
  | some rule => (rule.nextAfter? now day).map fun next => if day ≤ now.date then next else day

/-- No task is placed in the past. -/
theorem le_of_placedDay? {recurrence : String} {rule : Option Rule} {now : Moment} {day placed : Date}
    (hrule : recurrenceRule? recurrence = .ok rule) (h : placedDay? rule now day = some placed) :
    now.date ≤ placed := by
  cases rule with
  | none =>
    cases h
    exact le_max_right day now.date
  | some rule =>
    obtain ⟨next, hnext, rfl⟩ := Option.map_eq_some_iff.1 h
    by_cases hday : day ≤ now.date
    · rw [if_pos hday]
      exact Rule.le_of_nextAfter? (Rule.wellFormed_of_recurrenceRule? hrule).movesOn hnext
    · rw [if_neg hday]
      exact (not_le.1 hday).le

/-- **The placement of a date that can be read**: the rule is read first, then the day is placed. -/
theorem placeDate_eq {date recurrence : String} {now : Moment} {day : Date}
    (hday : Date.ofCompact? (requestedDate date now) = some day) :
    placeDate date recurrence now =
      match recurrenceRule? recurrence with
      | .error e => .error (.invalidRecurrence (.rule e))
      | .ok rule =>
        match placedDay? rule now day with
        | none => .error (.invalidRecurrence .outOfCalendar)
        | some placed => .ok placed.compact := by
  have hcompact := (Date.ofCompact?_eq_some_iff.1 hday).2
  rw [placeDate, readRequested, recurrenceRule?]
  by_cases hrec : recurrence = ""
  · simp only [hday, hrec, if_true]
    show Except.ok _ = Except.ok _
    rw [hcompact, max_def]
    congr 1
    by_cases hlt : day < now.date
    · rw [if_pos hlt, if_pos hlt.le]
    · by_cases hle : day ≤ now.date
      · rw [if_neg hlt, if_pos hle, le_antisymm hle (not_lt.1 hlt)]
      · rw [if_neg hlt, if_neg hle]
  · simp only [hday, hrec, if_false]
    cases hrule : Rule.parse recurrence with
    | error e =>
      rw [nextDate_of_parse_error hrec hday hrule]
      rfl
    | ok rule =>
      rw [nextDate_of_parse_ok hrec hday hrule]
      simp only [Except.map, placedDay?]
      cases hnext : rule.nextAfter? now day with
      | none => rfl
      | some next =>
        show Except.ok _ = Except.ok _
        rw [hcompact]
        congr 1
        split <;> rfl

/-- Where the date asked for cannot be read, nothing is placed. -/
theorem placeDate_of_ofCompact?_eq_none {date recurrence : String} {now : Moment}
    (hday : Date.ofCompact? (requestedDate date now) = none) :
    placeDate date recurrence now = .error (.invalidDate (requestedDate date now)) := by
  simp only [placeDate, readRequested, hday]
  rfl

/-- A date is found wanting exactly if it cannot be read. -/
theorem placeDate_eq_invalidDate_iff {date recurrence text : String} {now : Moment} :
    placeDate date recurrence now = .error (.invalidDate text) ↔
      Date.ofCompact? (requestedDate date now) = none ∧ text = requestedDate date now := by
  cases hday : Date.ofCompact? (requestedDate date now) with
  | none => simp [placeDate_of_ofCompact?_eq_none hday, eq_comm]
  | some day =>
    rw [placeDate_eq hday]
    cases recurrenceRule? recurrence with
    | error e => simp
    | ok rule => cases hplaced : placedDay? rule now day <;> simp [hplaced]

/-- **A task is stored under the day that its date and its rule lead to.** -/
theorem placeDate_eq_ok_iff {date recurrence stored : String} {now : Moment} :
    placeDate date recurrence now = .ok stored ↔
      ∃ day rule placed, Date.ofCompact? (requestedDate date now) = some day ∧
        recurrenceRule? recurrence = .ok rule ∧ placedDay? rule now day = some placed ∧
        stored = placed.compact := by
  cases hday : Date.ofCompact? (requestedDate date now) with
  | none => simp [placeDate_of_ofCompact?_eq_none hday]
  | some day =>
    rw [placeDate_eq hday]
    cases hrule : recurrenceRule? recurrence with
    | error e => simp
    | ok rule =>
      cases hplaced : placedDay? rule now day with
      | none => simp [hplaced]
      | some placed => simp [hplaced, eq_comm]

end Agenda
