import Agenda.Proofs.Calendar.Order
import Mathlib.Tactic.IntervalCases

/-!
# Steps of whole years

A year later the month and the day are the same, but for 29 February, which becomes 1 March in a common
year.  Such a step fails only beyond the last year, leads to a later day, and is at most 366 days long.

* `addYears?_eq_some_iff`, `addYears?_eq_none_iff` — the date that years lead to, and when there is none.
* `lt_of_addYears?`, `dayNumber_addYears?_one_le` — how far years lead.
* `daysBeforeYear_lt_dayNumber`, `dayNumber_le_daysBeforeYear_succ` — the numbers of the days of a year.
-/

namespace Agenda

/-- Only February depends on the year. -/
theorem monthLength_eq_of_ne_two {month : Nat} (h : month ≠ 2) (a b : Int) :
    monthLength a month = monthLength b month := by
  unfold monthLength
  split <;> first | contradiction | rfl

/-- No two years in a row are leap years. -/
theorem isLeapYear_succ {year : Int} (h : isLeapYear year = true) : isLeapYear (year + 1) = false := by
  simp only [isLeapYear, Bool.and_eq_true, beq_iff_eq, Bool.or_eq_true, bne_iff_ne, Bool.and_eq_false_iff,
    Bool.or_eq_false_iff, beq_eq_false_iff_ne] at h ⊢
  omega

namespace Date

theorem of?_eq_some_iff {year : Int} {month day : Nat} {e : Date} :
    of? year month day = some e ↔ e.year = year ∧ e.month = month ∧ e.day = day := by
  rw [of?]
  constructor
  · intro h
    split at h
    · rw [Option.some.injEq] at h
      subst h
      exact ⟨rfl, rfl, rfl⟩
    · exact absurd h (by simp)
  · intro h'
    obtain ⟨rfl, rfl, rfl⟩ := h'
    rw [dif_pos ⟨⟨e.firstYear_le, e.year_le⟩, ⟨e.month_pos, e.month_le⟩, ⟨e.day_pos, e.day_le⟩⟩]

theorem of?_eq_none_iff {year : Int} {month day : Nat} :
    of? year month day = none ↔ ¬ ((firstYear ≤ year ∧ year ≤ lastYear) ∧ (1 ≤ month ∧ month ≤ 12) ∧
      (1 ≤ day ∧ day ≤ monthLength year month)) := by
  rw [of?]
  split <;> simp_all

/-- The next month begins on its first day, in the year after a December. -/
theorem firstOfNextMonth?_eq_of? (d : Date) :
    d.firstOfNextMonth? = if d.month = 12 then of? (d.year + 1) 1 1 else of? d.year (d.month + 1) 1 := by
  cases hfirst : d.firstOfNextMonth? with
  | none =>
    obtain ⟨hyear, hmonth⟩ := firstOfNextMonth?_eq_none hfirst
    rw [if_pos hmonth, eq_comm, of?_eq_none_iff, hyear]
    omega
  | some first =>
    unfold firstOfNextMonth? at hfirst
    have hle := d.month_le
    split at hfirst
    · rename_i hlt
      rw [if_neg (by omega), eq_comm, of?_eq_some_iff, ← Option.some.inj hfirst]
      exact ⟨rfl, rfl, rfl⟩
    · split at hfirst
      · rw [if_pos (by omega), eq_comm, of?_eq_some_iff, ← Option.some.inj hfirst]
        exact ⟨rfl, rfl, rfl⟩
      · cases hfirst

/-- The only day that a month may lose in another year is 29 February. -/
theorem day_le_monthLength_or (d : Date) (year : Int) :
    d.day ≤ monthLength year d.month ∨ d.month = 2 ∧ d.day = 29 ∧ isLeapYear year = false := by
  have hday := d.day_le
  by_cases hm : d.month = 2
  · rw [hm] at hday ⊢
    have hle : d.day ≤ 29 := by
      simp only [monthLength] at hday
      split at hday <;> omega
    cases hleap : isLeapYear year
    · by_cases h29 : d.day = 29
      · exact .inr ⟨rfl, h29, rfl⟩
      · left
        simp only [monthLength, hleap, Bool.false_eq_true, if_false]
        omega
    · left
      simp only [monthLength, hleap, if_true]
      exact hle
  · rw [monthLength_eq_of_ne_two hm year d.year]
    exact .inl hday

/-- Only leap years have a 29 February. -/
theorem isLeapYear_of_leapDay {d : Date} (hmonth : d.month = 2) (hday : d.day = 29) :
    isLeapYear d.year = true := by
  have hle := d.day_le
  rw [hmonth, hday, monthLength] at hle
  split at hle
  · assumption
  · omega

/-- A year of the calendar has no 29 February exactly if it is a common year. -/
theorem of?_leapDay_eq_none_iff (e : Date) : of? e.year 2 29 = none ↔ isLeapYear e.year = false := by
  have hfirst := e.firstYear_le
  have hlast := e.year_le
  rw [of?_eq_none_iff, monthLength]
  cases isLeapYear e.year with
  | true => simp [hfirst, hlast]
  | false => simp

/-- The day itself is tried first, then 1 March in the place of a 29 February. -/
theorem addYears?_eq_some_iff_of? {d e : Date} {years : Int} :
    d.addYears? years = some e ↔ of? (d.year + years) d.month d.day = some e ∨
      of? (d.year + years) d.month d.day = none ∧ (d.month = 2 ∧ d.day = 29) ∧
        of? (d.year + years) 3 1 = some e := by
  rw [addYears?]
  cases of? (d.year + years) d.month d.day <;> simp

/-- **The date some years away**: the same day, or 1 March for a 29 February that the year does not have. -/
theorem addYears?_eq_some_iff {d e : Date} {years : Int} :
    d.addYears? years = some e ↔ e.year = d.year + years ∧
      (e.month = d.month ∧ e.day = d.day ∨
        (d.month = 2 ∧ d.day = 29 ∧ isLeapYear (d.year + years) = false) ∧ e.month = 3 ∧ e.day = 1) := by
  rw [addYears?_eq_some_iff_of?, of?_eq_some_iff, of?_eq_some_iff]
  constructor
  · intro h
    rcases h with ⟨hy, hm, hd⟩ | ⟨hnone, ⟨hm, hd⟩, hy, hm', hd'⟩
    · exact ⟨hy, .inl ⟨hm, hd⟩⟩
    · rw [hm, hd, ← hy, of?_leapDay_eq_none_iff, hy] at hnone
      exact ⟨hy, .inr ⟨⟨hm, hd, hnone⟩, hm', hd'⟩⟩
  · intro h
    obtain ⟨hy, ⟨hm, hd⟩ | ⟨⟨hm, hd, hcommon⟩, hm', hd'⟩⟩ := h
    · exact .inl ⟨hy, hm, hd⟩
    · refine .inr ⟨?_, ⟨hm, hd⟩, hy, hm', hd'⟩
      rw [hm, hd, ← hy, of?_leapDay_eq_none_iff, hy]
      exact hcommon

/-- **Adding years fails only outside the years of the calendar.** -/
theorem addYears?_eq_none_iff {d : Date} {years : Int} :
    d.addYears? years = none ↔ ¬ (firstYear ≤ d.year + years ∧ d.year + years ≤ lastYear) := by
  constructor
  · intro h hrange
    rcases day_le_monthLength_or d (d.year + years) with hday | ⟨hm, hd, hleap⟩
    · let e : Date := ⟨d.year + years, d.month, d.day, hrange.1, hrange.2, d.month_pos, d.month_le,
        d.day_pos, hday⟩
      have hsome : d.addYears? years = some e := addYears?_eq_some_iff.2 ⟨rfl, .inl ⟨rfl, rfl⟩⟩
      rw [h] at hsome
      exact absurd hsome (by simp)
    · have hmarch : 1 ≤ monthLength (d.year + years) 3 := by simp [monthLength]
      let e : Date := ⟨d.year + years, 3, 1, hrange.1, hrange.2, by omega, by omega, by omega, hmarch⟩
      have hsome : d.addYears? years = some e :=
        addYears?_eq_some_iff.2 ⟨rfl, .inr ⟨⟨hm, hd, hleap⟩, rfl, rfl⟩⟩
      rw [h] at hsome
      exact absurd hsome (by simp)
  · intro hrange
    cases h : d.addYears? years with
    | none => rfl
    | some e =>
      have hy := (addYears?_eq_some_iff.1 h).1
      exact absurd ⟨hy ▸ e.firstYear_le, hy ▸ e.year_le⟩ hrange

/-- Years lead to a later day. -/
theorem lt_of_addYears? {d e : Date} {years : Int} (hpos : 1 ≤ years) (h : d.addYears? years = some e) : d < e := by
  have hy := (addYears?_eq_some_iff.1 h).1
  exact .inl (by omega)

/-- One year leads to a later day. -/
theorem lt_of_addYears?_one {d e : Date} (h : d.addYears? 1 = some e) : d < e := lt_of_addYears? le_rfl h

/-! ### The length of a year -/

theorem daysBeforeYear_lt_dayNumber (d : Date) : daysBeforeYear d.year < d.dayNumber := by
  have := d.day_pos
  rw [dayNumber]
  omega

theorem dayNumber_le_daysBeforeYear_succ (d : Date) : d.dayNumber ≤ daysBeforeYear (d.year + 1) := by
  rw [daysBeforeYear_succ]
  exact dayNumber_le_endOfYear d

/-- A later year begins later. -/
theorem daysBeforeYear_lt_iff {a b : Int} : daysBeforeYear a < daysBeforeYear b ↔ a < b := by
  unfold daysBeforeYear
  omega

/-- A month begins a day later in a leap year if February is over. -/
theorem daysBeforeMonth_eq (month : Nat) (hpos : 1 ≤ month) (hle : month ≤ 13) (year : Int) :
    daysBeforeMonth year month =
      daysBeforeMonth 1 month + if isLeapYear year = true ∧ 3 ≤ month then 1 else 0 := by
  cases hleap : isLeapYear year <;> interval_cases month <;>
    simp [daysBeforeMonth, monthLength, hleap, show isLeapYear 1 = false from rfl]

/-- **One year is at most 366 days long.** -/
theorem dayNumber_addYears?_one_le {d e : Date} (h : d.addYears? 1 = some e) :
    e.dayNumber ≤ d.dayNumber + 366 := by
  obtain ⟨hy, hfields⟩ := addYears?_eq_some_iff.1 h
  have hlength := daysBeforeMonth_eq 13 (by omega) (by omega) d.year
  have hthis := daysBeforeMonth_eq d.month d.month_pos (by have := d.month_le; omega) d.year
  have hnext := daysBeforeMonth_eq d.month d.month_pos (by have := d.month_le; omega) (d.year + 1)
  rw [show daysBeforeMonth 1 13 = 365 from rfl] at hlength
  unfold dayNumber
  rw [hy, daysBeforeYear_succ]
  rcases hfields with ⟨hm, hd⟩ | ⟨⟨hm, hd, hleap⟩, hm', hd'⟩
  · rw [hm, hd]
    cases hleap : isLeapYear d.year with
    | true =>
      simp only [isLeapYear_succ hleap, Bool.false_eq_true, false_and, if_false] at hnext
      split at hlength <;> omega
    | false =>
      simp only [hleap, Bool.false_eq_true, false_and, if_false] at hlength
      split at hnext <;> omega
  · rw [hm, hd, hm', hd']
    have hmarch := daysBeforeMonth_eq 3 (by omega) (by omega) (d.year + 1)
    simp only [hleap, Bool.false_eq_true, false_and, if_false] at hmarch
    rw [show daysBeforeMonth d.year 2 = 31 from rfl]
    rw [show daysBeforeMonth 1 3 = 59 from rfl] at hmarch
    split at hlength <;> omega

end Date

end Agenda
