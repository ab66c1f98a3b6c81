import Agenda.Proofs.Rule.Canonical
import Agenda.Proofs.Rule.SelectedDays

/-!
# Monthly rules that some day satisfies

The reader refuses a selection of days that is too late for all of its months.  It compares the days with the
greatest lengths of the months only, and this is exact: in a leap year each month has its greatest length, and
in no year is it longer.  So a monthly rule is refused if no day of the calendar, in any year, satisfies it,
and only then.

* `monthLength_of_isLeapYear`, `monthLength_le_longestMonth` — the greatest lengths of months.
* `MonthDays.reaches_iff_exists_selects` — the comparison, against the days of the calendar.
* `Rule.parse_monthlyText` — how the text of a monthly rule is read.
* `Rule.monthly_refused_iff_unsatisfiable` — what is refused, and what is read.
-/

namespace Agenda

open Outcome Text

/-- In a leap year every month has its greatest length. -/
theorem monthLength_of_isLeapYear {year : Int} (h : isLeapYear year = true) (month : Nat) :
    monthLength year month = longestMonth month := by
  by_cases hmonth : month = 2
  · subst hmonth
    show (if isLeapYear year then 29 else 28) = 29
    rw [if_pos h]
  · unfold monthLength longestMonth
    split <;> simp_all

theorem monthLength_le_longestMonth (year : Int) (month : Nat) :
    monthLength year month ≤ longestMonth month := by
  by_cases hmonth : month = 2
  · subst hmonth
    show (if isLeapYear year then 29 else 28) ≤ 29
    split <;> omega
  · rw [monthLength_eq_of_ne_two hmonth year 2024, monthLength_of_isLeapYear rfl]

/-- A day of a year in which every month has its greatest length. -/
def Date.inLeapYear (month day : Nat) (hmonth : 1 ≤ month ∧ month ≤ 12)
    (hday : 1 ≤ day ∧ day ≤ monthLength 2024 month) : Date :=
  ⟨2024, month, day, by decide, by decide, hmonth.1, hmonth.2, hday.1, hday.2⟩

namespace MonthDays

variable {days : MonthDays} {months : NumberSet}

/-- **The comparison with the greatest lengths of the months is exact.** -/
theorem reaches_iff_exists_selects (hdays : ∀ n ∈ days.days, 1 ≤ n) (hne : months.elements ≠ [])
    (hmonths : ∀ n ∈ months, 1 ≤ n ∧ n ≤ 12) :
    days.reaches months = true ↔ ∃ d, (Rule.monthly days months).Selects d := by
  rw [reaches_iff]
  constructor
  · rintro (hlast | hsecond | ⟨day, hday, month, hmonth, hle⟩)
    · obtain ⟨month, hmonth⟩ := List.exists_mem_of_ne_nil _ hne
      have hpos := monthLength_pos 2024 month
      let d := Date.inLeapYear month (monthLength 2024 month) (hmonths month hmonth) ⟨by omega, le_rfl⟩
      exact ⟨d, hmonth, .inr (.inl ⟨hlast, Date.endsMonth_iff.2 rfl⟩)⟩
    · obtain ⟨month, hmonth⟩ := List.exists_mem_of_ne_nil _ hne
      have hpos := monthLength_pos 2024 month
      let d := Date.inLeapYear month (monthLength 2024 month - 1) (hmonths month hmonth) (by omega)
      have hbefore : d.day + 1 = d.daysInMonth := by
        show monthLength 2024 month - 1 + 1 = monthLength 2024 month
        omega
      exact ⟨d, hmonth, .inr (.inr ⟨hsecond, Date.precedesMonthEnd_iff.2 hbefore⟩)⟩
    · have hlength : day ≤ monthLength 2024 month := by
        rw [monthLength_of_isLeapYear rfl]
        exact hle
      exact ⟨.inLeapYear month day (hmonths month hmonth) ⟨hdays day hday, hlength⟩, hmonth, .inl hday⟩
  · rintro ⟨d, hmonth, hday | ⟨hlast, -⟩ | ⟨hsecond, -⟩⟩
    · exact .inr (.inr ⟨d.day, hday, d.month, hmonth, d.day_le.trans (monthLength_le_longestMonth _ _)⟩)
    · exact .inl hlast
    · exact .inr (.inl hsecond)

theorem mem_days_ofSelectors {selectors : List Int} {n : Nat} :
    n ∈ (ofSelectors selectors).days ↔ 0 < n ∧ (n : Int) ∈ selectors := by
  simp only [ofSelectors, NumberSet.mem_ofList, List.mem_map, List.mem_filter, decide_eq_true_eq]
  constructor
  · rintro ⟨m, ⟨hmem, hpos⟩, rfl⟩
    rw [Int.toNat_of_nonneg hpos.le]
    exact ⟨by omega, hmem⟩
  · rintro ⟨hpos, hmem⟩
    exact ⟨n, ⟨hmem, by omega⟩, rfl⟩

end MonthDays

namespace Rule

/-- The text of a monthly rule, with its selectors of days and its months in any order. -/
def monthlyText (selectors months : List Int) : String :=
  .ofList ('m' :: ' ' ::
    (commaSeparated (selectors.map signedDecimal) ++ ' ' :: commaSeparated (months.map signedDecimal)))

/-- Whether a day lies in one of the months and satisfies one of the selectors. -/
def SatisfiedOn (selectors months : List Int) (d : Date) : Prop :=
  (d.month : Int) ∈ months ∧
    ((d.day : Int) ∈ selectors ∨ -1 ∈ selectors ∧ d.EndsMonth ∨ -2 ∈ selectors ∧ d.PrecedesMonthEnd)

variable {selectors months : List Int}

/-- The text of a monthly rule is read as the rule of its lists, or refused because no month is long enough. -/
theorem parse_monthlyText (hne : selectors ≠ [])
    (hselectors : ∀ n ∈ selectors, n = -1 ∨ n = -2 ∨ 1 ≤ n ∧ n ≤ 31) (hne' : months ≠ [])
    (hmonths : ∀ n ∈ months, 1 ≤ n ∧ n ≤ 12) :
    parse (monthlyText selectors months) =
      if (MonthDays.ofSelectors selectors).reaches (.ofList (months.map Int.toNat)) then
        .ok (.monthly (.ofSelectors selectors) (.ofList (months.map Int.toNat)))
      else .error (.invalidParameter (.unreachable (MonthDays.ofSelectors selectors).days)) := by
  have hdays : RuleField.monthDay.readList (fun n => n == -1 || n == -2 || (1 ≤ n && n ≤ 31))
      (commaSeparated (selectors.map signedDecimal)) = .ok selectors := by
    refine RuleField.readList_commaSeparated hne fun n hn => ?_
    have hrange := hselectors n hn
    simp only [least64, greatest64, Bool.or_eq_true, Bool.and_eq_true, decide_eq_true_eq, beq_iff_eq]
    omega
  have hread : RuleField.month.readList (fun n => 1 ≤ n && n ≤ 12)
      (commaSeparated (months.map signedDecimal)) = .ok months := by
    refine RuleField.readList_commaSeparated hne' fun n hn => ?_
    have hrange := hmonths n hn
    simp only [least64, greatest64, Bool.and_eq_true, decide_eq_true_eq]
    omega
  rw [monthlyText, parse_ofList, words_kind_cons (by decide), (words_commaSeparated hne).2,
    (words_commaSeparated hne').1]
  show monthlyOf [_, _] = _
  rw [monthlyOf, hdays]
  show Except.mapError _ (monthsOf [_] >>= _) = _
  rw [monthsOf, hread]
  show Except.mapError _ (MonthDays.checkReach _ _ >>= _) = _
  rw [MonthDays.checkReach]
  split <;> rfl

theorem satisfiedOn_iff_selects (hmonths : ∀ n ∈ months, 1 ≤ n ∧ n ≤ 12) {d : Date} :
    SatisfiedOn selectors months d ↔
      (monthly (.ofSelectors selectors) (.ofList (months.map Int.toNat))).Selects d := by
  have hmonth : (d.month : Int) ∈ months ↔ d.month ∈ NumberSet.ofList (months.map Int.toNat) := by
    rw [NumberSet.mem_ofList, List.mem_map]
    constructor
    · exact fun h => ⟨d.month, h, rfl⟩
    · rintro ⟨n, hn, heq⟩
      have hpos := hmonths n hn
      rwa [← heq, Int.toNat_of_nonneg (by omega)]
  have hday : (d.day : Int) ∈ selectors ↔ d.day ∈ (MonthDays.ofSelectors selectors).days := by
    rw [MonthDays.mem_days_ofSelectors]
    exact ⟨fun h => ⟨d.day_pos, h⟩, fun h => h.2⟩
  have hlast : -1 ∈ selectors ↔ (MonthDays.ofSelectors selectors).last = true :=
    List.contains_iff_mem.symm
  have hsecond : -2 ∈ selectors ↔ (MonthDays.ofSelectors selectors).secondToLast = true :=
    List.contains_iff_mem.symm
  rw [SatisfiedOn, hmonth, hday, hlast, hsecond]
  rfl

/-- **A monthly rule is refused exactly if no day of the calendar satisfies it**, and read exactly if some day
does.  So every monthly rule that is read selects a day, however it is written. -/
theorem monthly_refused_iff_unsatisfiable :
    (∀ selectors months : List Int,
      selectors ≠ [] → (∀ n ∈ selectors, n = -1 ∨ n = -2 ∨ 1 ≤ n ∧ n ≤ 31) →
      months ≠ [] → (∀ n ∈ months, 1 ≤ n ∧ n ≤ 12) →
      ((∃ fault, parse (monthlyText selectors months) = .error (.invalidParameter fault)) ↔
        ∀ d, ¬ SatisfiedOn selectors months d) ∧
      ((∃ rule, parse (monthlyText selectors months) = .ok rule) ↔ ∃ d, SatisfiedOn selectors months d)) ∧
    ∀ text days months, parse text = .ok (.monthly days months) → ∃ d, (monthly days months).Selects d := by
  constructor
  · intro selectors months hne hselectors hne' hmonths
    have hreaches : (MonthDays.ofSelectors selectors).reaches (.ofList (months.map Int.toNat)) = true ↔
        ∃ d, SatisfiedOn selectors months d := by
      simp only [satisfiedOn_iff_selects hmonths]
      refine MonthDays.reaches_iff_exists_selects (fun n hn => (MonthDays.mem_days_ofSelectors.1 hn).1)
        (NumberSet.elements_ofList_ne_nil (by simpa using hne')) ?_
      intro n hn
      obtain ⟨m, hm, rfl⟩ := List.mem_map.1 (NumberSet.mem_ofList.1 hn)
      have hrange := hmonths m hm
      omega
    rw [← not_exists, ← hreaches, parse_monthlyText hne hselectors hne' hmonths]
    split
    · rename_i h
      simp [h]
    · rename_i h
      simp [h]
  · intro text days months h
    obtain ⟨hdays, ⟨hne, hmonths⟩, hreach⟩ := wellFormed_of_parse h
    exact (MonthDays.reaches_iff_exists_selects (fun n hn => (hdays n hn).1) hne hmonths).1
      (MonthDays.reaches_iff.2 hreach)

/-- No February has a 30th or a 31st day, and some have a 29th. -/
theorem monthly_refused_iff_unsatisfiable_february :
    (∀ d, ¬ SatisfiedOn [31, 30] [2] d) ∧ (∃ d, SatisfiedOn [31, 29] [2] d) ∧
      ∃ d, (monthly ⟨.ofList [30], true, false⟩ (.ofList [2])).Selects d := by
  obtain ⟨hlists, hread⟩ := monthly_refused_iff_unsatisfiable
  obtain ⟨hrefused, -⟩ := hlists [31, 30] [2] (by decide) (by decide) (by decide) (by decide)
  obtain ⟨-, haccepted⟩ := hlists [31, 29] [2] (by decide) (by decide) (by decide) (by decide)
  have hbad : parse "m 31,30 2" = .error (.invalidParameter (.unreachable (.ofList [30, 31]))) := by decide
  have hgood : parse "m 31,29 2" = .ok (.monthly ⟨.ofList [29, 31], false, false⟩ (.ofList [2])) := by decide
  exact ⟨hrefused.1 ⟨_, hbad⟩, haccepted.1 ⟨_, hgood⟩, hread " m -1,30 02 more" _ _ (by decide)⟩

end Rule

end Agenda
