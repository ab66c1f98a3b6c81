import Agenda.Proofs.Rule.Completion
import Agenda.Proofs.Task.Placement

/-!
# Placing a task on the way

A task may be placed at one moment and again at a later one.  It ends up where it would be if it had only been
placed at the later moment: the rule goes on from the day in between as it does from the first one.

* `Rule.nextAfter?_of_date_eq` — only the day of a moment counts.
* `Rule.nextAfter?_from_stop`, `Rule.nextAfter?_at_stop` — the next occurrence after a stop, and at it.
* `placedDay?_from_stop`, `placeDate_on_the_way` — the same for the day and for the text of a task.
-/

namespace Agenda

namespace Rule

variable {rule : Rule} {early late : Moment} {start first next : Date}

/-- Only the day of a moment counts. -/
theorem nextAfter?_of_date_eq (h : early.date = late.date) :
    rule.nextAfter? early start = rule.nextAfter? late start := by
  have hmidnight : ∀ d : Date, decide (early < .midnight d) = decide (late < .midnight d) := by
    intro d
    rw [decide_eq_decide, Moment.lt_midnight_iff, Moment.lt_midnight_iff, h]
  cases rule with
  | daily interval => rw [nextAfter?, nextAfter?, h]
  | yearly => rw [nextAfter?, nextAfter?, h]
  | weekly weekdays => simp only [nextAfter?, hmidnight]
  | monthly days months => simp only [nextAfter?, hmidnight]

/-- What occurs after a day occurs after each earlier one. -/
theorem exists_nextAfter?_of_later (hmoves : rule.MovesOn) (hle : early.date ≤ late.date)
    (h : rule.nextAfter? late start = some next) : ∃ first, rule.nextAfter? early start = some first := by
  cases hcounts : rule.countsFromStart with
  | true =>
    have hlate := nextAfter?_isEarliest_of_countsFromStart hcounts hmoves late start
    have hearly := nextAfter?_isEarliest_of_countsFromStart hcounts hmoves early start
    obtain ⟨⟨hoccurs, hnext⟩, -⟩ := hlate.eq_some_iff.1 h
    obtain ⟨first, hfirst, -⟩ := hearly.exists_le ⟨hoccurs, hle.trans hnext⟩
    exact ⟨first, hfirst⟩
  | false =>
    have hlate := nextAfter?_isEarliest_of_not_countsFromStart hcounts late start
    have hearly := nextAfter?_isEarliest_of_not_countsFromStart hcounts early start
    obtain ⟨⟨hoccurs, hstart, hnext⟩, -⟩ := hlate.eq_some_iff.1 h
    obtain ⟨first, hfirst, -⟩ := hearly.exists_le ⟨hoccurs, hstart, hle.trans_lt hnext⟩
    exact ⟨first, hfirst⟩

/-- **A stop that is not ahead changes nothing**: the rule goes on from it as from the start. -/
theorem nextAfter?_from_stop (hmoves : rule.MovesOn) (hstart : start ≤ early.date)
    (hfirst : rule.nextAfter? early start = some first) (hstop : first ≤ late.date) :
    rule.nextAfter? late first = rule.nextAfter? late start := by
  have hle : start ≤ first := hstart.trans (le_of_nextAfter? hmoves hfirst)
  cases hcounts : rule.countsFromStart with
  | true =>
    have hearly := nextAfter?_isEarliest_of_countsFromStart hcounts hmoves early start
    have hoccurs := (hearly.eq_some_iff.1 hfirst).1.1
    refine (nextAfter?_isEarliest_of_countsFromStart hcounts hmoves late first).unique ?_
    refine (nextAfter?_isEarliest_of_countsFromStart hcounts hmoves late start).congr fun d => ?_
    exact and_congr_left fun hd => (occursOn_iff_of_occursOn hmoves hoccurs (hstop.trans hd)).symm
  | false =>
    have hearly := nextAfter?_isEarliest_of_not_countsFromStart hcounts early start
    have hoccurs := (hearly.eq_some_iff.1 hfirst).1.1
    refine (nextAfter?_isEarliest_of_not_countsFromStart hcounts late first).unique ?_
    refine (nextAfter?_isEarliest_of_not_countsFromStart hcounts late start).congr fun d => ?_
    -- whatever is after today is after the stop, and so after the start
    constructor
    · rintro ⟨ho, -, hd⟩
      have hafter := hstop.trans_lt hd
      exact ⟨(occursOn_iff_of_occursOn hmoves hoccurs hafter.le).2 ho, hafter, hd⟩
    · rintro ⟨ho, hafter, hd⟩
      exact ⟨(occursOn_iff_of_occursOn hmoves hoccurs hafter.le).1 ho, hle.trans_lt hafter, hd⟩

/-- A stop that is still ahead is the next occurrence at the later moment, too. -/
theorem nextAfter?_at_stop (hmoves : rule.MovesOn) (hle : early.date ≤ late.date)
    (hfirst : rule.nextAfter? early start = some first) (hahead : late.date < first) :
    rule.nextAfter? late start = some first := by
  cases hcounts : rule.countsFromStart with
  | true =>
    have hearly := nextAfter?_isEarliest_of_countsFromStart hcounts hmoves early start
    obtain ⟨⟨hoccurs, -⟩, hleast⟩ := hearly.eq_some_iff.1 hfirst
    refine (nextAfter?_isEarliest_of_countsFromStart hcounts hmoves late start).eq_some_iff.2 ?_
    exact ⟨⟨hoccurs, hahead.le⟩, fun e he => hleast e ⟨he.1, hle.trans he.2⟩⟩
  | false =>
    have hearly := nextAfter?_isEarliest_of_not_countsFromStart hcounts early start
    obtain ⟨⟨hoccurs, hafter, -⟩, hleast⟩ := hearly.eq_some_iff.1 hfirst
    refine (nextAfter?_isEarliest_of_not_countsFromStart hcounts late start).eq_some_iff.2 ?_
    exact ⟨⟨hoccurs, hafter, hahead⟩, fun e he => hleast e ⟨he.1, he.2.1, hle.trans_lt he.2.2⟩⟩

end Rule

/-! ### The day of a task -/

section Placement

variable {early late : Moment} {day placed : Date}

theorem placedDay?_some_eq_some_iff {rule : Rule} {now : Moment} :
    placedDay? (some rule) now day = some placed ↔
      ∃ next, rule.nextAfter? now day = some next ∧ (if day ≤ now.date then next else day) = placed := by
  rw [placedDay?, Option.map_eq_some_iff]

/-- **The day in between does not matter**: a task that is placed at one moment and again at a later one lies
where the later moment alone puts it. -/
theorem placedDay?_from_stop {recurrence : String} {rule : Option Rule}
    (hrule : recurrenceRule? recurrence = .ok rule) (hle : early.date ≤ late.date)
    (hday : day.HasFourDigitYear) (hplaced : placed.HasFourDigitYear)
    (h : placedDay? rule late day = some placed) :
    ∃ stop, placedDay? rule early day = some stop ∧ stop.HasFourDigitYear ∧
      placedDay? rule late stop = some placed := by
  cases rule with
  | none =>
    cases h
    refine ⟨max day early.date, rfl, ?_, ?_⟩
    · exact hday.of_le_of_le hplaced (le_max_left _ _) (max_le_max_left day hle)
    · show some (max (max day early.date) late.date) = _
      rw [max_assoc, max_eq_right hle]
  | some rule =>
    have hwell := Rule.wellFormed_of_recurrenceRule? hrule
    obtain ⟨next, hnext, hcase⟩ := placedDay?_some_eq_some_iff.1 h
    obtain ⟨first, hfirst⟩ := Rule.exists_nextAfter?_of_later hwell.movesOn hle hnext
    by_cases hstart : day ≤ early.date
    · rw [if_pos (hstart.trans hle)] at hcase
      subst hcase
      have hafter : day ≤ first := hstart.trans (Rule.le_of_nextAfter? hwell.movesOn hfirst)
      refine ⟨first, placedDay?_some_eq_some_iff.2 ⟨first, hfirst, if_pos hstart⟩, ?_⟩
      by_cases hstop : first ≤ late.date
      · have hagain := (Rule.nextAfter?_from_stop hwell.movesOn hstart hfirst hstop).trans hnext
        have hbefore : first ≤ next := hstop.trans (Rule.le_of_nextAfter? hwell.movesOn hnext)
        exact ⟨hday.of_le_of_le hplaced hafter hbefore,
          placedDay?_some_eq_some_iff.2 ⟨next, hagain, if_pos hstop⟩⟩
      · -- the stop is the day itself; the rule must go on from it all the same
        have hsame := Rule.nextAfter?_at_stop hwell.movesOn hle hfirst (not_le.1 hstop)
        rw [hnext, Option.some.injEq] at hsame
        subst hsame
        obtain ⟨further, hfurther⟩ := Rule.exists_nextAfter? hwell late next (by
          rw [max_eq_left (not_le.1 hstop).le]
          exact hplaced.dayNumber_add_lt.le)
        exact ⟨hplaced, placedDay?_some_eq_some_iff.2 ⟨further, hfurther, if_neg hstop⟩⟩
    · -- a day that is still to come stays at the first moment
      exact ⟨day, placedDay?_some_eq_some_iff.2 ⟨first, hfirst, if_neg hstart⟩, hday, h⟩

theorem placedDay?_of_date_eq {rule : Option Rule} (h : early.date = late.date) :
    placedDay? rule early day = placedDay? rule late day := by
  cases rule with
  | none => rw [placedDay?, placedDay?, h]
  | some rule => rw [placedDay?, placedDay?, Rule.nextAfter?_of_date_eq h, h]

end Placement

/-! ### The text of a task -/

/-- **Placing a task on the way does not change where it ends up**, as long as the day it ends up on can be
written with four digits for the year.  Within one day this means that a task that was placed stays where it
is, and then it may be a task without a date, too. -/
theorem placeDate_on_the_way {date recurrence : String} {early late : Moment} {day : Date}
    (hmoments : date ≠ "" ∧ early.date ≤ late.date ∨ early.date = late.date)
    (h : placeDate date recurrence late = .ok day.compact) (hyear : day.HasFourDigitYear) :
    ∃ stop, placeDate date recurrence early = .ok stop ∧ placeDate stop recurrence late = .ok day.compact ∧
      (early.date = late.date → stop = day.compact) := by
  have hle : early.date ≤ late.date := hmoments.elim (fun hm => hm.2) le_of_eq
  have hasked : requestedDate date early = requestedDate date late := by
    rw [requestedDate, requestedDate]
    rcases hmoments with ⟨hne, -⟩ | hsame
    · rw [if_neg hne, if_neg hne]
    · rw [hsame]
  obtain ⟨asked, rule, placed, hday, hrule, hplaced, htext⟩ := placeDate_eq_ok_iff.1 h
  obtain rfl : placed = day := Date.eq_of_compact_eq hyear htext.symm
  have hdayYear := (Date.ofCompact?_eq_some_iff.1 hday).1
  obtain ⟨stop, hstop, hstopYear, hagain⟩ := placedDay?_from_stop hrule hle hdayYear hyear hplaced
  have hread := Date.ofCompact?_compact hstopYear
  refine ⟨stop.compact, ?_, ?_, ?_⟩
  · exact placeDate_eq_ok_iff.2 ⟨asked, rule, stop, hasked ▸ hday, hrule, hstop, rfl⟩
  · refine placeDate_eq_ok_iff.2 ⟨stop, rule, placed, ?_, hrule, hagain, rfl⟩
    rw [requestedDate_of_ofCompact? hread, hread]
  · intro hsame
    rw [placedDay?_of_date_eq hsame, hplaced, Option.some.injEq] at hstop
    rw [hstop]

/-- A task that comes back on each leap day, placed in the year after one and again two years after it. -/
theorem placeDate_on_the_way_leapDay :
    let early : Moment :=
      .midnight ⟨2025, 1, 10, by decide, by decide, by decide, by decide, by decide, by decide⟩
    let late : Moment :=
      .midnight ⟨2026, 3, 2, by decide, by decide, by decide, by decide, by decide, by decide⟩
    let day : Date := ⟨2027, 3, 1, by decide, by decide, by decide, by decide, by decide, by decide⟩
    placeDate "20240229" "y" late = .ok day.compact ∧
      ∃ stop, placeDate "20240229" "y" early = .ok stop ∧ placeDate stop "y" late = .ok day.compact := by
  intro early late day
  have hplace : placeDate "20240229" "y" late = .ok day.compact := by decide +kernel
  have hmoments : "20240229" ≠ "" ∧ early.date ≤ late.date := ⟨by decide, by decide⟩
  obtain ⟨stop, hearly, hlate, -⟩ := placeDate_on_the_way (.inl hmoments) hplace (by decide)
  exact ⟨hplace, stop, hearly, hlate⟩

end Agenda
