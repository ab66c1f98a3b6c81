import Agenda.Proofs.Task.Stopover
import Agenda.Proofs.Task.Verdict

/-!
# Storing a task

A new or changed task is stored exactly if its title, its recurrence and its date are in order, and otherwise
the first of them that is not is reported.  What is stored is what was asked for, but for the date, which is
brought up to date and never lies in the past.

* `TaskDraft.Storable`, `TaskDraft.FirstFault` — the drafts that are stored, and what is reported of others.
* `StoredOn` — the day under which a task is stored.
* `StoresDraft` — what it means that an operation stores a draft.
* `Table.add_and_change_store` — both operations do.
-/

namespace Agenda

open Outcome

/-! ### Drafts in order -/

namespace TaskDraft

/-- The title has a character that is no blank, and at most 256 characters. -/
def HasTitle (draft : TaskDraft) : Prop :=
  (∃ c ∈ draft.title.toList, Text.isBlank c = false) ∧ draft.title.length ≤ 256

instance (draft : TaskDraft) : Decidable draft.HasTitle :=
  decidable_of_iff
    ((draft.title.toList.any fun c => !Text.isBlank c) = true ∧ draft.title.length ≤ 256) (by simp [HasTitle])

/-- The task is done once, or its rule can be read. -/
def HasRecurrence (draft : TaskDraft) : Prop :=
  draft.recurrence = "" ∨ ∃ rule, Rule.parse draft.recurrence = .ok rule

/-- The day that a draft asks for: the day of its date, or today if it has none. -/
def AsksFor (draft : TaskDraft) (today day : Date) : Prop :=
  draft.date = "" ∧ day = today ∨ draft.date ≠ "" ∧ Date.ofCompact? draft.date = some day

structure Storable (draft : TaskDraft) : Prop where
  title : draft.HasTitle
  recurrence : draft.HasRecurrence
  date : draft.date = "" ∨ ∃ day, Date.ofCompact? draft.date = some day

/-- The report of the first check that a draft does not pass: first the title, then the recurrence, then the
date. -/
inductive FirstFault (draft : TaskDraft) : TaskError → Prop
  | blankTitle : (∀ c ∈ draft.title.toList, Text.isBlank c = true) →
      FirstFault draft (.invalidInput .emptyTitle)
  | longTitle : (∃ c ∈ draft.title.toList, Text.isBlank c = false) → 256 < draft.title.length →
      FirstFault draft (.invalidInput .longTitle)
  | recurrence {e : RuleError} : draft.HasTitle → draft.recurrence ≠ "" →
      Rule.parse draft.recurrence = .error e → FirstFault draft (.rejected (.ofRuleError e))
  | date : draft.HasTitle → draft.HasRecurrence → draft.date ≠ "" → Date.ofCompact? draft.date = none →
      FirstFault draft (.placement (.invalidDate draft.date))

end TaskDraft

/-- The day under which a task is stored that is asked for on a day: a day to come stays; otherwise a task
that is done once comes today, and a repeating task on the next of its days, which may be today only for the
rules that count from the start. -/
inductive StoredOn (today asked : Date) : Option Rule → Date → Prop
  | ahead {rule : Option Rule} : today < asked → StoredOn today asked rule asked
  | overdue : asked < today → StoredOn today asked none today
  | once : ¬ asked < today → StoredOn today asked none asked
  | counted {rule : Rule} {day : Date} : asked ≤ today → rule.countsFromStart = true →
      IsEarliest (some day) (fun d => rule.OccursOn asked d ∧ today ≤ d) →
      StoredOn today asked (some rule) day
  | selected {rule : Rule} {day : Date} : asked ≤ today → rule.countsFromStart = false →
      IsEarliest (some day) (fun d => rule.OccursOn asked d ∧ today < d) →
      StoredOn today asked (some rule) day

/-- The outcome of storing a draft under a number. -/
structure StoresDraft (today : Date) (draft : TaskDraft) (id : Int)
    (outcome : Except TaskError (Task × Table)) : Prop where
  succeeds_iff : (∃ task u, outcome = .ok (task, u)) ↔ draft.Storable
  fails_iff : ∀ e, outcome = .error e ↔ draft.FirstFault e
  stored : ∀ task u, outcome = .ok (task, u) → u.find? id = some task ∧
    ∃ asked rule day, draft.AsksFor today asked ∧ recurrenceRule? draft.recurrence = .ok rule ∧
      StoredOn today asked rule day ∧ today ≤ day ∧
      task = ⟨id, day.compact, draft.title, draft.comment, draft.recurrence⟩

/-! ### The checks -/

theorem blank_or_not (s : List Char) :
    (∀ c ∈ s, Text.isBlank c = true) ∨ ∃ c ∈ s, Text.isBlank c = false := by
  cases h : s.all Text.isBlank with
  | true => exact .inl (List.all_eq_true.1 h)
  | false =>
    obtain ⟨c, hc, hblank⟩ := List.all_eq_false.1 h
    exact .inr ⟨c, hc, Bool.eq_false_iff.2 hblank⟩

theorem trimmed_ne_empty {s : String} (h : ∃ c ∈ s.toList, Text.isBlank c = false) : Text.trimmed s ≠ "" := by
  obtain ⟨c, hc, hblank⟩ := h
  intro hempty
  rw [Text.trimmed_eq_empty_iff.1 hempty c hc] at hblank
  cases hblank

theorem checkTitle_eq_ok {draft : TaskDraft} (h : draft.HasTitle) : checkTitle draft.title = .ok () := by
  obtain ⟨htext, hlength⟩ := h
  have hfits : ¬ draft.title.length > longestTitle := not_lt.2 hlength
  rw [checkTitle, if_neg (trimmed_ne_empty htext), if_neg hfits]
  rfl

/-- Only a title with a character that is no blank, and not too long, passes the check. -/
theorem hasTitle_of_checkTitle {draft : TaskDraft} (h : checkTitle draft.title = .ok ()) : draft.HasTitle := by
  rcases blank_or_not draft.title.toList with hblank | htext
  · rw [checkTitle, if_pos (Text.trimmed_eq_empty_iff.2 hblank)] at h
    exact absurd h throw_ne_ok
  · refine ⟨htext, ?_⟩
    by_contra hlong
    have hexceeds : draft.title.length > longestTitle := not_le.1 hlong
    rw [checkTitle, if_neg (trimmed_ne_empty htext), if_pos hexceeds] at h
    exact absurd h throw_ne_ok

namespace TaskDraft

variable {draft prepared : TaskDraft} {now : Moment}

/-- A draft is storable, or there is a first fault to report. -/
theorem storable_or_firstFault (draft : TaskDraft) : draft.Storable ∨ ∃ e, draft.FirstFault e := by
  rcases blank_or_not draft.title.toList with hblank | htext
  · exact .inr ⟨_, .blankTitle hblank⟩
  by_cases hlong : 256 < draft.title.length
  · exact .inr ⟨_, .longTitle htext hlong⟩
  have htitle : draft.HasTitle := ⟨htext, not_lt.1 hlong⟩
  have hrecurrence : draft.HasRecurrence ∨ ∃ e, draft.FirstFault e := by
    by_cases hempty : draft.recurrence = ""
    · exact .inl (.inl hempty)
    · cases hrule : Rule.parse draft.recurrence with
      | ok rule => exact .inl (.inr ⟨rule, hrule⟩)
      | error e => exact .inr ⟨_, .recurrence htitle hempty hrule⟩
  refine hrecurrence.elim (fun hrecurrence => ?_) .inr
  by_cases hempty : draft.date = ""
  · exact .inl ⟨htitle, hrecurrence, .inl hempty⟩
  · cases hdate : Date.ofCompact? draft.date with
    | some day => exact .inl ⟨htitle, hrecurrence, .inr ⟨day, hdate⟩⟩
    | none => exact .inr ⟨_, .date htitle hrecurrence hempty hdate⟩

/-- A fault is reported as soon as its check is made. -/
theorem prepare_of_firstFault {e : TaskError} (h : draft.FirstFault e) : draft.prepare now = .error e := by
  cases h with
  | blankTitle hblank =>
    rw [prepare, checkTitle, if_pos (Text.trimmed_eq_empty_iff.2 hblank)]
    rfl
  | longTitle htext hlong =>
    have hexceeds : draft.title.length > longestTitle := hlong
    rw [prepare, checkTitle, if_neg (trimmed_ne_empty htext), if_pos hexceeds]
    rfl
  | recurrence htitle hne hrule =>
    exact prepare_of_check_error (checkTitle_eq_ok htitle) (Rule.check_eq_error_iff.2 ⟨hne, _, hrule, rfl⟩)
  | date htitle hrecurrence hne hdate =>
    have hasked : requestedDate draft.date now = draft.date := if_neg hne
    refine prepare_eq_placement_error_iff.2 ⟨checkTitle_eq_ok htitle, Rule.check_eq_ok_iff.2 hrecurrence, ?_⟩
    rw [placeDate_of_ofCompact?_eq_none (by rwa [hasked]), hasked]

/-- The day that is asked for can be read, today included. -/
theorem asksFor_iff {day : Date} (hnow : now.date.HasFourDigitYear) :
    draft.AsksFor now.date day ↔ Date.ofCompact? (requestedDate draft.date now) = some day := by
  rw [AsksFor, requestedDate]
  by_cases hempty : draft.date = ""
  · simp [hempty, Date.ofCompact?_compact hnow, eq_comm]
  · simp [hempty]

/-- A draft in order is prepared. -/
theorem exists_prepare (hnow : now.date.HasFourDigitYear) (h : draft.Storable) :
    ∃ prepared, draft.prepare now = .ok prepared := by
  have hcheck : Rule.check draft.recurrence = .ok () := Rule.check_eq_ok_iff.2 h.recurrence
  obtain ⟨asked, hasked⟩ : ∃ asked, draft.AsksFor now.date asked := by
    by_cases hempty : draft.date = ""
    · exact ⟨now.date, .inl ⟨hempty, rfl⟩⟩
    · obtain ⟨day, hday⟩ := h.date.resolve_left hempty
      exact ⟨day, .inr ⟨hempty, hday⟩⟩
  cases hplace : placeDate draft.date draft.recurrence now with
  | ok date => exact ⟨_, prepare_eq_ok_iff.2 ⟨checkTitle_eq_ok h.title, hcheck, date, hplace, rfl⟩⟩
  | error e =>
    -- the date can be read, and no rule is refused this far from the end of the calendar
    cases e with
    | invalidDate text =>
      rw [placeDate_eq_invalidDate_iff, (asksFor_iff hnow).1 hasked] at hplace
      cases hplace.1
    | invalidRecurrence e =>
      exact absurd hplace (placeDate_ne_invalidRecurrence hnow.dayNumber_add_lt.le hcheck e)

end TaskDraft

/-! ### The stored day -/

theorem storedOn_of_placedDay? {rule : Option Rule} {now : Moment} {asked day : Date}
    (hmoves : ∀ r, rule = some r → r.MovesOn) (h : placedDay? rule now asked = some day) :
    StoredOn now.date asked rule day := by
  by_cases hahead : now.date < asked
  · have hday : day = asked := by
      cases rule with
      | none =>
        cases h
        exact max_eq_left hahead.le
      | some rule =>
        obtain ⟨next, -, hcase⟩ := placedDay?_some_eq_some_iff.1 h
        rw [if_neg (not_le.2 hahead)] at hcase
        exact hcase.symm
    rw [hday]
    exact .ahead hahead
  have hle : asked ≤ now.date := not_lt.1 hahead
  cases rule with
  | none =>
    cases h
    rw [max_eq_right hle]
    rcases hle.lt_or_eq with hlt | heq
    · exact .overdue hlt
    · rw [← heq]
      exact .once (lt_irrefl asked)
  | some rule =>
    obtain ⟨next, hnext, hcase⟩ := placedDay?_some_eq_some_iff.1 h
    rw [if_pos hle] at hcase
    subst hcase
    cases hcounts : rule.countsFromStart with
    | true =>
      have hearliest := Rule.nextAfter?_isEarliest_of_countsFromStart hcounts (hmoves rule rfl) now asked
      rw [hnext] at hearliest
      exact .counted hle hcounts hearliest
    | false =>
      have hearliest := Rule.nextAfter?_isEarliest_of_not_countsFromStart hcounts now asked
      rw [hnext] at hearliest
      refine .selected hle hcounts (hearliest.congr fun d => ?_)
      exact and_congr_right fun _ => ⟨fun hd => hd.2, fun hd => ⟨hle.trans_lt hd, hd⟩⟩

/-- What a prepared draft holds. -/
theorem TaskDraft.stored_of_prepare {draft prepared : TaskDraft} {now : Moment}
    (hnow : now.date.HasFourDigitYear) (h : draft.prepare now = .ok prepared) :
    ∃ asked rule day, draft.AsksFor now.date asked ∧ recurrenceRule? draft.recurrence = .ok rule ∧
      StoredOn now.date asked rule day ∧ now.date ≤ day ∧ prepared = { draft with date := day.compact } := by
  obtain ⟨-, -, date, hplace, rfl⟩ := prepare_eq_ok_iff.1 h
  obtain ⟨asked, rule, day, hasked, hrule, hplaced, rfl⟩ := placeDate_eq_ok_iff.1 hplace
  refine ⟨asked, rule, day, (asksFor_iff hnow).2 hasked, hrule, ?_, le_of_placedDay? hrule hplaced, rfl⟩
  refine storedOn_of_placedDay? ?_ hplaced
  intro r hr
  subst hr
  exact (Rule.wellFormed_of_recurrenceRule? hrule).movesOn

/-! ### The operations -/

/-- An operation stores a draft if it gives the prepared draft a row and passes every error on. -/
theorem storesDraft_of_prepare {now : Moment} {draft : TaskDraft} {id : Int}
    {outcome : Except TaskError (Task × Table)} (hnow : now.date.HasFourDigitYear)
    (hok : ∀ prepared, draft.prepare now = .ok prepared →
      ∃ u, outcome = .ok (prepared.withId id, u) ∧ u.find? id = some (prepared.withId id))
    (herror : ∀ e, draft.prepare now = .error e → outcome = .error e) :
    StoresDraft now.date draft id outcome := by
  have hstorable : draft.Storable → ∃ result, outcome = .ok result := by
    intro h
    obtain ⟨prepared, hprepare⟩ := TaskDraft.exists_prepare hnow h
    obtain ⟨u, hu, -⟩ := hok prepared hprepare
    exact ⟨_, hu⟩
  have hfault : ∀ e, draft.FirstFault e → outcome = .error e := by
    intro e h
    exact herror e (TaskDraft.prepare_of_firstFault h)
  constructor
  · constructor
    · intro h'
      obtain ⟨task, u, hu⟩ := h'
      rcases draft.storable_or_firstFault with h | ⟨e, h⟩
      · exact h
      · rw [hfault e h] at hu
        cases hu
    · intro h
      obtain ⟨⟨task, u⟩, hu⟩ := hstorable h
      exact ⟨task, u, hu⟩
  · intro e
    refine ⟨fun he => ?_, hfault e⟩
    rcases draft.storable_or_firstFault with h | ⟨e', h⟩
    · obtain ⟨result, hresult⟩ := hstorable h
      rw [hresult] at he
      cases he
    · rw [hfault e' h] at he
      cases he
      exact h
  · intro task u hu
    cases hprepare : draft.prepare now with
    | error e =>
      rw [herror e hprepare] at hu
      cases hu
    | ok prepared =>
      obtain ⟨v, hv, hfound⟩ := hok prepared hprepare
      rw [hv] at hu
      cases hu
      obtain ⟨asked, rule, day, hasked, hrule, hday, hle, rfl⟩ := TaskDraft.stored_of_prepare hnow hprepare
      exact ⟨hfound, asked, rule, day, hasked, hrule, hday, hle, rfl⟩

/-- A changed row asks for the fields that the change names, and for its own fields otherwise. -/
theorem TaskChange.draft_applyTo (c : TaskChange) (row : Task) :
    (c.applyTo row).draft = ⟨c.title.getD row.title, c.date.getD row.date, c.comment.getD row.comment,
      c.recurrence.getD row.recurrence⟩ := rfl

namespace Table

/-- **Storing a task**, in every table with a number left and on every day of the years from 0 to 9999.  A new
task and a changed one are stored under the same conditions.  A change puts the fields that it names over the
row as it is, whoever wrote it, and a row that is missing is reported before anything is checked. -/
theorem add_and_change_store {now : Moment} (hnow : now.date.HasFourDigitYear) (t : Table) :
    (∀ id draft, t.nextId? = some id → StoresDraft now.date draft id (t.add now draft)) ∧
    (∀ id (row : Task) (c : TaskChange), t.find? id = some row →
      StoresDraft now.date ⟨c.title.getD row.title, c.date.getD row.date, c.comment.getD row.comment,
        c.recurrence.getD row.recurrence⟩ id (t.change now id c)) ∧
    ∀ id (c : TaskChange), t.find? id = none → t.change now id c = .error (.notFound id) := by
  refine ⟨?_, ?_, ?_⟩
  · intro id draft hid
    refine storesDraft_of_prepare hnow ?_ fun e => add_of_prepare_error
    intro prepared hprepare
    obtain ⟨u, hnew⟩ := exists_insertNew? prepared hid
    obtain ⟨-, -, hrows⟩ := find?_of_insertNew? hnew
    refine ⟨u, add_eq_ok_iff.2 ⟨prepared, hprepare, hnew⟩, ?_⟩
    rw [hrows]
    exact Function.update_self ..
  · intro id row c hfound
    rw [← TaskChange.draft_applyTo]
    refine storesDraft_of_prepare hnow ?_ fun e => change_of_prepare_error hfound
    intro prepared hprepare
    refine ⟨_, change_eq_ok_iff.2 ⟨row, prepared, hfound, hprepare, rfl, rfl⟩, ?_⟩
    exact find?_replace_self hfound (find?_eq_some_iff.1 hfound).2
  · intro id c hnone
    exact bind_eq_error_iff.2 (.inl (get_eq_error_iff.2 ⟨hnone, rfl⟩))

/-- Beside a row with a recurrence that is no rule, a task is stored, and another one is changed in its title,
its comment and its rule, so that its own date moves on by the new rule.  The foreign row itself can be changed
only together with its recurrence. -/
theorem add_and_change_store_beside_foreign_row :
    let now : Moment :=
      .midnight ⟨2025, 3, 10, by decide, by decide, by decide, by decide, by decide, by decide⟩
    let gym : Task := ⟨3, "20250301", "Gym", "", "w 1"⟩
    let foreign : Task := ⟨7, "someday", "Gym", "", "every week"⟩
    let t : Table := ⟨[gym, foreign], 7, by decide, by decide, by decide⟩
    now.date.HasFourDigitYear ∧
      (∃ task u, t.add now ⟨"Rent", "20250301", "flat", "d 7"⟩ = .ok (task, u) ∧ u.find? 8 = some task) ∧
      (∃ u, t.change now 3 ⟨some "Rent", none, some "flat", some "d 7"⟩ =
          .ok (⟨3, "20250315", "Rent", "flat", "d 7"⟩, u) ∧
        u.find? 3 = some ⟨3, "20250315", "Rent", "flat", "d 7"⟩) ∧
      t.change now 7 ⟨none, some "20250401", none, none⟩ = .error (.rejected (.unknownKind "every")) ∧
      t.change now 9 ⟨none, some "20250401", none, none⟩ = .error (.notFound 9) := by
  intro now gym foreign t
  have hnow : now.date.HasFourDigitYear := by decide
  have hrule : Rule.parse "d 7" = .ok (.daily 7) := by decide +kernel
  have hdate : (Date.ofCompact? "20250301").isSome := by decide +kernel
  obtain ⟨hadd, hchange, hmissing⟩ := add_and_change_store hnow t
  refine ⟨hnow, ?_, ?_, ?_, hmissing 9 _ (by decide)⟩
  · have hstores := hadd 8 ⟨"Rent", "20250301", "flat", "d 7"⟩ (by decide)
    obtain ⟨task, u, hu⟩ := hstores.succeeds_iff.2
      ⟨by decide, .inr ⟨_, hrule⟩, .inr (Option.isSome_iff_exists.1 hdate)⟩
    exact ⟨task, u, hu, (hstores.stored task u hu).1⟩
  · have hstores := hchange 3 gym ⟨some "Rent", none, some "flat", some "d 7"⟩ (by decide)
    obtain ⟨task, u, hu⟩ := hstores.succeeds_iff.2
      ⟨by decide, .inr ⟨_, hrule⟩, .inr (Option.isSome_iff_exists.1 hdate)⟩
    have hmoved : (t.change now 3 ⟨some "Rent", none, some "flat", some "d 7"⟩).map Prod.fst =
        .ok ⟨3, "20250315", "Rent", "flat", "d 7"⟩ := by decide +kernel
    rw [hu] at hmoved
    obtain rfl := Except.ok.inj hmoved
    exact ⟨u, hu, (hstores.stored _ u hu).1⟩
  · have hstores := hchange 7 foreign ⟨none, some "20250401", none, none⟩ (by decide)
    have hrule : Rule.parse "every week" = .error (.unsupportedKind "every") := by decide +kernel
    have hfault : TaskDraft.FirstFault ⟨"Gym", "20250401", "", "every week"⟩ _ :=
      .recurrence (by decide) (by decide) hrule
    exact (hstores.fails_iff _).2 hfault

end Table

end Agenda
