import Agenda.CommandLine.Run
import Agenda.Proofs.Rule.Reach
import Agenda.Proofs.Task.Operation
import Agenda.Proofs.Text.Words

/-!
# One verdict on a rule

A recurrence text is read in several places: it is checked, asked for its next date, and placed in the
calendar before a task is stored.  While the calendar does not end soon, all of them accept the same texts and
report the same error, so the check that comes first is the only one that ever refuses a rule.

* `OneVerdict` — the places agree about a recurrence text.
* `SameVerdicts` — no place tells two recurrence texts apart.
* `placeDate_ne_invalidRecurrence` — a rule that passes the check is placed.
* `recurrence_verdict_agrees` — the agreement, and what follows for stored tasks and for blanks around a rule.
-/

namespace Agenda

open Outcome

/-- The check, the next date and the placement give the verdict of the reader: all of them accept what can be
read, and all of them retell its error otherwise. -/
structure OneVerdict (now : Moment) (start recurrence : String) : Prop where
  accepted : ∀ rule, Rule.parse recurrence = .ok rule →
    Rule.check recurrence = .ok () ∧ (∃ next, nextDate now start recurrence = .ok next) ∧
      ∃ date, placeDate start recurrence now = .ok date
  refused : ∀ e, Rule.parse recurrence = .error e →
    (∃ rejection, Rule.check recurrence = .error rejection) ∧
      nextDate now start recurrence = .error (.rule e) ∧
      placeDate start recurrence now = .error (.invalidRecurrence (.rule e))
  unknownKind : ∀ kind, Rule.check recurrence = .error (.unknownKind kind) ↔
    Rule.parse recurrence = .error (.unsupportedKind kind)
  invalid : (∃ reason, Rule.check recurrence = .error (.invalid reason)) ↔
    ∃ e, Rule.parse recurrence = .error e ∧ ∀ kind, e ≠ .unsupportedKind kind

/-- No place tells two recurrence texts apart. -/
structure SameVerdicts (now : Moment) (a b : String) : Prop where
  parse : Rule.parse a = Rule.parse b
  check : Rule.check a = Rule.check b
  nextDate : ∀ start, nextDate now start a = nextDate now start b
  placeDate : ∀ date, placeDate date a now = placeDate date b now

/-! ### The check retells the error of the reader -/

theorem Rejection.ofRuleError_eq_unknownKind_iff {e : RuleError} {kind : String} :
    Rejection.ofRuleError e = .unknownKind kind ↔ e = .unsupportedKind kind := by
  cases e <;> simp [ofRuleError]

theorem Rejection.exists_ofRuleError_eq_invalid_iff {e : RuleError} :
    (∃ reason, Rejection.ofRuleError e = .invalid reason) ↔ ∀ kind, e ≠ .unsupportedKind kind := by
  cases e <;> simp [ofRuleError]

/-! ### A rule that passes the check is placed -/

section Placement

variable {now : Moment} {start date recurrence : String} {day : Date} {rule : Rule}

/-- Every rule has a next occurrence for a start that can be read. -/
theorem exists_nextAfter?_of_ofCompact? (hnow : now.date.dayNumber + longestPause ≤ Date.last.dayNumber)
    (hstart : Date.ofCompact? start = some day) (hrule : Rule.parse recurrence = .ok rule) :
    ∃ next, rule.nextAfter? now day = some next := by
  refine Rule.exists_nextAfter? (Rule.wellFormed_of_parse hrule) now day ?_
  have hday := (Date.ofCompact?_eq_some_iff.1 hstart).1.dayNumber_add_lt
  -- a start that can be read is far from the end of the calendar, and so is today
  rcases max_choice day now.date with hmax | hmax
  · rw [hmax]
    omega
  · rw [hmax]
    exact hnow

/-- A repeating task with a readable rule and date is placed. -/
theorem exists_placedDay? (hnow : now.date.dayNumber + longestPause ≤ Date.last.dayNumber)
    (hstart : Date.ofCompact? start = some day) (hrule : Rule.parse recurrence = .ok rule) :
    ∃ placed, placedDay? (some rule) now day = some placed := by
  obtain ⟨next, hnext⟩ := exists_nextAfter?_of_ofCompact? hnow hstart hrule
  exact ⟨if day ≤ now.date then next else day, by rw [placedDay?, hnext]; rfl⟩

/-- **A recurrence that passes the check does not fail when its task is placed.** -/
theorem placeDate_ne_invalidRecurrence (hnow : now.date.dayNumber + longestPause ≤ Date.last.dayNumber)
    (hcheck : Rule.check recurrence = .ok ()) (e : ScheduleError) :
    placeDate date recurrence now ≠ .error (.invalidRecurrence e) := by
  cases hday : Date.ofCompact? (requestedDate date now) with
  | none =>
    rw [placeDate_of_ofCompact?_eq_none hday]
    simp
  | some day =>
    rw [placeDate_eq hday]
    by_cases hempty : recurrence = ""
    · -- without a rule the task stays on its day or moves to today
      rw [recurrenceRule?, if_pos hempty]
      simp [placedDay?]
    · obtain ⟨rule, hrule⟩ := (Rule.check_eq_ok_iff.1 hcheck).resolve_left hempty
      obtain ⟨placed, hplaced⟩ := exists_placedDay? hnow hday hrule
      rw [recurrenceRule?_eq_ok_some_iff.2 hrule]
      simp [hplaced]

/-- **The places agree about every recurrence text but the empty one.** -/
theorem oneVerdict (hnow : now.date.dayNumber + longestPause ≤ Date.last.dayNumber) (hne : recurrence ≠ "")
    (hstart : Date.ofCompact? start = some day) : OneVerdict now start recurrence := by
  have hday : Date.ofCompact? (requestedDate start now) = some day := by
    rw [requestedDate_of_ofCompact? hstart, hstart]
  constructor
  · intro rule hrule
    obtain ⟨next, hnext⟩ := exists_nextAfter?_of_ofCompact? hnow hstart hrule
    obtain ⟨placed, hplaced⟩ := exists_placedDay? hnow hstart hrule
    refine ⟨Rule.check_eq_ok_iff.2 (.inr ⟨rule, hrule⟩), ⟨next.compact, ?_⟩, placed.compact, ?_⟩
    · rw [nextDate_of_parse_ok hne hstart hrule, hnext]
      rfl
    · rw [placeDate_eq hday, recurrenceRule?_eq_ok_some_iff.2 hrule]
      simp [hplaced]
  · intro e hrule
    refine ⟨⟨_, Rule.check_eq_error_iff.2 ⟨hne, e, hrule, rfl⟩⟩, nextDate_of_parse_error hne hstart hrule, ?_⟩
    rw [placeDate_eq hday, recurrenceRule?, if_neg hne, hrule]
    rfl
  · intro kind
    simp only [Rule.check_eq_error_iff, Rejection.ofRuleError_eq_unknownKind_iff, exists_eq_right]
    exact and_iff_right hne
  · simp only [Rule.check_eq_error_iff, ← Rejection.exists_ofRuleError_eq_invalid_iff]
    constructor
    · intro h
      obtain ⟨reason, -, e, hrule, hreason⟩ := h
      exact ⟨e, hrule, reason, hreason⟩
    · intro h
      obtain ⟨e, hrule, reason, hreason⟩ := h
      exact ⟨reason, hne, e, hrule, hreason⟩

end Placement

/-! ### Blanks around a rule -/

/-- Texts with the same words are not told apart, unless one of them is empty. -/
theorem sameVerdicts_of_words_eq {a b : String} (now : Moment) (ha : a ≠ "") (hb : b ≠ "")
    (hwords : Text.words a.toList = Text.words b.toList) : SameVerdicts now a b := by
  have hparse : Rule.parse a = Rule.parse b := by rw [Rule.parse, Rule.parse, hwords]
  have hnext : ∀ start, nextDate now start a = nextDate now start b := by
    intro start
    rw [nextDate, nextDate, if_neg ha, if_neg hb, hparse]
  refine ⟨hparse, ?_, hnext, ?_⟩
  · rw [Rule.check, Rule.check, if_neg ha, if_neg hb, hparse]
  · intro date
    rw [placeDate, placeDate]
    simp only [if_neg ha, if_neg hb, hnext]

theorem ne_empty_of_trimmed_ne_empty {recurrence : String} (h : Text.trimmed recurrence ≠ "") :
    recurrence ≠ "" := by
  rintro rfl
  exact h rfl

/-- **Blanks around a rule change no verdict.** -/
theorem sameVerdicts_between_blanks {front back recurrence : String} (now : Moment)
    (hfront : Text.IsBlankText front.toList) (hback : Text.IsBlankText back.toList)
    (h : Text.trimmed recurrence ≠ "") : SameVerdicts now (front ++ recurrence ++ back) recurrence := by
  have hne := ne_empty_of_trimmed_ne_empty h
  refine sameVerdicts_of_words_eq now ?_ hne ?_
  · rw [ne_eq, String.append_eq_empty_iff, String.append_eq_empty_iff]
    exact fun hempty => hne hempty.1.2
  · rw [String.toList_append, String.toList_append]
    exact Text.words_between_blanks hfront hback _

/-- Trimming a rule that is not blank changes no verdict. -/
theorem sameVerdicts_trimmed {recurrence : String} (now : Moment) (h : Text.trimmed recurrence ≠ "") :
    SameVerdicts now (Text.trimmed recurrence) recurrence := by
  refine sameVerdicts_of_words_eq now h (ne_empty_of_trimmed_ne_empty h) ?_
  rw [Text.trimmed, String.toList_ofList]
  exact Text.words_trim _

/-! ### The agreement -/

/-- **One verdict on a rule, wherever it is read**, as long as the calendar does not end within the longest
pause.  So a new or changed task is never refused for its rule when it is placed: a rule that cannot be read
is reported by the check before.  Blanks around a rule that is not blank do not matter, and neither does
whether the command that reads it trims it. -/
theorem recurrence_verdict_agrees {now : Moment}
    (hnow : now.date.dayNumber + longestPause ≤ Date.last.dayNumber) :
    (∀ start recurrence, recurrence ≠ "" → (Date.ofCompact? start).isSome = true →
      OneVerdict now start recurrence) ∧
    (∀ (t : Table) draft e, t.add now draft ≠ .error (.placement (.invalidRecurrence e))) ∧
    (∀ (t : Table) id c e, t.change now id c ≠ .error (.placement (.invalidRecurrence e))) ∧
    (∀ (t : Table) (draft : TaskDraft) e, checkTitle draft.title = .ok () → draft.recurrence ≠ "" →
      Rule.parse draft.recurrence = .error e → t.add now draft = .error (.rejected (.ofRuleError e))) ∧
    (∀ (t : Table) id (c : TaskChange) task e, t.find? id = some task →
      checkTitle (c.applyTo task).title = .ok () → (c.applyTo task).recurrence ≠ "" →
      Rule.parse (c.applyTo task).recurrence = .error e →
      t.change now id c = .error (.rejected (.ofRuleError e))) ∧
    (∀ front back recurrence : String, Text.IsBlankText front.toList → Text.IsBlankText back.toList →
      Text.trimmed recurrence ≠ "" → SameVerdicts now (front ++ recurrence ++ back) recurrence) ∧
    (∀ today title date comment recurrence, Text.trimmed recurrence ≠ "" →
      SameVerdicts now (CommandLine.addedDraft today title date comment (some recurrence)).recurrence
        recurrence) ∧
    (∀ today title date comment clearComment recurrence task, Text.trimmed recurrence ≠ "" →
      SameVerdicts now ((CommandLine.editChange today title date comment clearComment (some recurrence)
        false).applyTo task).recurrence recurrence) := by
  refine ⟨?_, ?_, ?_, ?_, ?_, ?_, ?_, ?_⟩
  · intro start recurrence hne hstart
    obtain ⟨day, hday⟩ := Option.isSome_iff_exists.1 hstart
    exact oneVerdict hnow hne hday
  · intro t draft e hadd
    obtain ⟨-, hcheck, hplace⟩ :=
      TaskDraft.prepare_eq_placement_error_iff.1 (Table.add_eq_placement_error_iff.1 hadd)
    exact placeDate_ne_invalidRecurrence hnow hcheck e hplace
  · intro t id c e hchange
    obtain ⟨old, -, hprepare⟩ := Table.change_eq_placement_error_iff.1 hchange
    obtain ⟨-, hcheck, hplace⟩ := TaskDraft.prepare_eq_placement_error_iff.1 hprepare
    exact placeDate_ne_invalidRecurrence hnow hcheck e hplace
  · intro t draft e htitle hne hrule
    have hcheck := Rule.check_eq_error_iff.2 ⟨hne, e, hrule, rfl⟩
    exact Table.add_of_prepare_error (TaskDraft.prepare_of_check_error htitle hcheck)
  · intro t id c task e hfound htitle hne hrule
    have hcheck := Rule.check_eq_error_iff.2 ⟨hne, e, hrule, rfl⟩
    exact Table.change_of_prepare_error hfound (TaskDraft.prepare_of_check_error htitle hcheck)
  · exact fun front back recurrence hfront hback h => sameVerdicts_between_blanks now hfront hback h
  · exact fun today title date comment recurrence h => sameVerdicts_trimmed now h
  · exact fun today title date comment clearComment recurrence task h => sameVerdicts_trimmed now h

/-- The verdict at the last moment from which every pause ends in the calendar. -/
theorem recurrence_verdict_at_last_room :
    let now : Moment :=
      .midnight ⟨262135, 1, 1, by decide, by decide, by decide, by decide, by decide, by decide⟩
    now.date.dayNumber + longestPause = Date.last.dayNumber ∧ OneVerdict now "20240229" "m 29 2" := by
  intro now
  have hroom : now.date.dayNumber + longestPause = Date.last.dayNumber := by decide
  exact ⟨hroom, (recurrence_verdict_agrees hroom.le).1 _ _ (by decide) (by decide)⟩

end Agenda
