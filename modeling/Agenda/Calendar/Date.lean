/-!
# Dates of the proleptic Gregorian calendar

A `Date` is a day that exists: its month has that many days, and its year lies in the calendar's range,
which has a year 0 and years before it.  Dates are ordered as they follow each other in time.

* `dayNumber_next?` — the day after a date is numbered one higher, through month ends and leap years.
* `lt_iff_dayNumber_lt` — the order of dates is the order of their day numbers.
* `dayNumber_addDays?`, `addDays?_eq_none_iff` — adding days adds to the day number and fails only
  beyond the last day of the calendar.
-/

namespace Agenda

def firstYear : Int := -262143

def lastYear : Int := 262142

/-- Every fourth year is a leap year, except the centuries that 400 does not divide. -/
def isLeapYear (year : Int) : Bool :=
  year % 4 == 0 && (year % 100 != 0 || year % 400 == 0)

def monthLength (year : Int) (month : Nat) : Nat :=
  match month with
  | 2 => if isLeapYear year then 29 else 28
  | 4 | 6 | 9 | 11 => 30
  | _ => 31

theorem monthLength_pos (year : Int) (month : Nat) : 28 ≤ monthLength year month := by
  unfold monthLength
  split <;> (try split) <;> omega

theorem monthLength_le (year : Int) (month : Nat) : monthLength year month ≤ 31 := by
  unfold monthLength
  split <;> (try split) <;> omega

@[ext]
structure Date where
  /-- The year, counted through a year 0. -/
  year : Int
  /-- The month, from 1 for January to 12 for December. -/
  month : Nat
  /-- The day of the month, from 1. -/
  day : Nat
  firstYear_le : firstYear ≤ year
  year_le : year ≤ lastYear
  month_pos : 1 ≤ month
  month_le : month ≤ 12
  day_pos : 1 ≤ day
  day_le : day ≤ monthLength year month
deriving DecidableEq, Repr

namespace Date

/-- The date with these fields, if the calendar has it. -/
def of? (year : Int) (month day : Nat) : Option Date :=
  if h : (firstYear ≤ year ∧ year ≤ lastYear) ∧ (1 ≤ month ∧ month ≤ 12) ∧
      (1 ≤ day ∧ day ≤ monthLength year month) then
    some ⟨year, month, day, h.1.1, h.1.2, h.2.1.1, h.2.1.2, h.2.2.1, h.2.2.2⟩
  else
    none

def last : Date := ⟨lastYear, 12, 31, by decide, by decide, by decide, by decide, by decide, by decide⟩

def daysInMonth (d : Date) : Nat := monthLength d.year d.month

/-! ### Order -/

/-- Dates are compared by year, then by month, then by day. -/
instance : LT Date where
  lt a b := a.year < b.year ∨ a.year = b.year ∧ (a.month < b.month ∨ a.month = b.month ∧ a.day < b.day)

instance : LE Date where
  le a b := ¬ b < a

instance (a b : Date) : Decidable (a < b) :=
  inferInstanceAs (Decidable (a.year < b.year ∨
    a.year = b.year ∧ (a.month < b.month ∨ a.month = b.month ∧ a.day < b.day)))

instance (a b : Date) : Decidable (a ≤ b) := inferInstanceAs (Decidable (¬ b < a))

def latest (a b : Date) : Date := if a ≤ b then b else a

/-! ### Day numbers -/

/-- The days of a year that lie before one of its months. -/
def daysBeforeMonth (year : Int) : Nat → Nat
  | 0 => 0
  | 1 => 0
  | month + 2 => daysBeforeMonth year (month + 1) + monthLength year (month + 1)

/-- The days from the beginning of year 1 to the beginning of a year. -/
def daysBeforeYear (year : Int) : Int :=
  365 * (year - 1) + (year - 1) / 4 - (year - 1) / 100 + (year - 1) / 400

/-- The number of a date in the sequence of all days; 1 January of year 1 has the number 1. -/
def dayNumber (d : Date) : Int :=
  daysBeforeYear d.year + daysBeforeMonth d.year d.month + d.day

/-- The day of the week, from 1 for Monday to 7 for Sunday. -/
def weekday (d : Date) : Nat := ((d.dayNumber - 1) % 7).toNat + 1

/-- A year is as long as its twelve months. -/
theorem daysBeforeYear_succ (year : Int) :
    daysBeforeYear (year + 1) = daysBeforeYear year + daysBeforeMonth year 13 := by
  simp only [daysBeforeMonth, monthLength, daysBeforeYear, isLeapYear, Bool.and_eq_true, beq_iff_eq,
    Bool.or_eq_true, bne_iff_ne]
  split <;> omega

theorem daysBeforeMonth_succ (year : Int) (month : Nat) (h : 1 ≤ month) :
    daysBeforeMonth year (month + 1) = daysBeforeMonth year month + monthLength year month := by
  match month, h with
  | n + 1, _ => rfl

/-- A later month of a year begins no earlier than the end of an earlier one. -/
theorem daysBeforeMonth_add_le (year : Int) (a b : Nat) (ha : 1 ≤ a) (h : a < b) :
    daysBeforeMonth year a + monthLength year a ≤ daysBeforeMonth year b := by
  induction b with
  | zero => omega
  | succ b ih =>
    rw [daysBeforeMonth_succ year b (by omega)]
    by_cases hb : a = b
    · subst hb
      omega
    · have := ih (by omega)
      omega

/-- A later year begins no earlier than the end of an earlier one. -/
theorem daysBeforeYear_add_le (a b : Int) (h : a < b) :
    daysBeforeYear a + daysBeforeMonth a 13 ≤ daysBeforeYear b := by
  rw [← daysBeforeYear_succ]
  unfold daysBeforeYear
  omega

/-- A date lies inside its month, and its month inside its year. -/
theorem dayNumber_le_endOfYear (d : Date) :
    d.dayNumber ≤ daysBeforeYear d.year + daysBeforeMonth d.year 13 := by
  have h := daysBeforeMonth_add_le d.year d.month 13 d.month_pos (by have := d.month_le; omega)
  have hday := d.day_le
  unfold dayNumber
  omega

/-- Earlier dates have smaller numbers. -/
theorem dayNumber_lt_of_lt {a b : Date} (h : a < b) : a.dayNumber < b.dayNumber := by
  have hb := b.day_pos
  rcases h with hy | ⟨hy, hm | ⟨hm, hd⟩⟩
  · have h₁ := dayNumber_le_endOfYear a
    have h₂ := daysBeforeYear_add_le a.year b.year hy
    unfold dayNumber at *
    omega
  · have h₁ := daysBeforeMonth_add_le a.year a.month b.month a.month_pos hm
    have h₂ := a.day_le
    unfold dayNumber
    rw [← hy]
    omega
  · unfold dayNumber
    rw [← hy, ← hm]
    omega

/-- Two dates are equal or one of them is earlier. -/
theorem lt_or_eq_or_gt (a b : Date) : a < b ∨ a = b ∨ b < a := by
  show (_ ∨ _) ∨ _ ∨ (_ ∨ _)
  by_cases hy : a.year = b.year
  · by_cases hm : a.month = b.month
    · by_cases hd : a.day = b.day
      · exact .inr (.inl (Date.ext hy hm hd))
      · omega
    · omega
  · omega

/-- **The order of dates is the order of their numbers.** -/
theorem lt_iff_dayNumber_lt {a b : Date} : a < b ↔ a.dayNumber < b.dayNumber := by
  constructor
  · exact dayNumber_lt_of_lt
  · intro h
    rcases lt_or_eq_or_gt a b with hlt | rfl | hgt
    · exact hlt
    · omega
    · have := dayNumber_lt_of_lt hgt
      omega

theorem le_iff_dayNumber_le {a b : Date} : a ≤ b ↔ a.dayNumber ≤ b.dayNumber := by
  show ¬ b < a ↔ _
  rw [lt_iff_dayNumber_lt]
  omega

/-- Different dates have different numbers. -/
theorem eq_of_dayNumber_eq {a b : Date} (h : a.dayNumber = b.dayNumber) : a = b := by
  rcases lt_or_eq_or_gt a b with hlt | heq | hgt
  · have := dayNumber_lt_of_lt hlt
    omega
  · exact heq
  · have := dayNumber_lt_of_lt hgt
    omega

/-- No date is later than the last one. -/
theorem dayNumber_le_last (d : Date) : d.dayNumber ≤ last.dayNumber := by
  rw [← le_iff_dayNumber_le]
  have h₁ := d.year_le
  have h₂ := d.month_le
  have h₃ := d.day_le
  have h₄ := monthLength_le d.year d.month
  rintro (h | ⟨_, h | ⟨_, h⟩⟩) <;> simp only [last] at h <;> omega

/-! ### Steps through the calendar -/

def firstOfNextMonth? (d : Date) : Option Date :=
  if h : d.month < 12 then
    some ⟨d.year, d.month + 1, 1, d.firstYear_le, d.year_le, by omega, by omega, by omega,
      by have := monthLength_pos d.year (d.month + 1); omega⟩
  else if h : d.year < lastYear then
    some ⟨d.year + 1, 1, 1, by have := d.firstYear_le; omega, by omega, by omega, by omega, by omega,
      by have := monthLength_pos (d.year + 1) 1; omega⟩
  else
    none

/-- The day after a date, unless it is the last day of the calendar. -/
def next? (d : Date) : Option Date :=
  if h : d.day < monthLength d.year d.month then
    some { d with day := d.day + 1, day_pos := by omega, day_le := h }
  else
    d.firstOfNextMonth?

/-- The date a number of days later, unless the calendar ends before it: the days left in the month
are used up first, then the search goes on from the first day of the next month. -/
def addDays? (d : Date) (count : Nat) : Option Date :=
  if h : d.day + count ≤ monthLength d.year d.month then
    some { d with day := d.day + count, day_pos := by have := d.day_pos; omega, day_le := h }
  else
    match d.firstOfNextMonth? with
    | none => none
    | some first => first.addDays? (d.day + count - (monthLength d.year d.month + 1))
termination_by count
decreasing_by
  have := d.day_le
  omega

/-- The same day of the same month some years later or earlier, unless the calendar does not have that
year.  29 February becomes 1 March in a year that is no leap year. -/
def addYears? (d : Date) (years : Int) : Option Date :=
  match of? (d.year + years) d.month d.day with
  | some e => some e
  | none => if d.month = 2 ∧ d.day = 29 then of? (d.year + years) 3 1 else none

/-- The first day of the next month follows the last day of this one. -/
theorem dayNumber_firstOfNextMonth? {d e : Date} (h : d.firstOfNextMonth? = some e) :
    e.dayNumber = d.dayNumber - d.day + monthLength d.year d.month + 1 := by
  unfold firstOfNextMonth? at h
  have hpos := d.month_pos
  have hle := d.month_le
  split at h
  · simp only [Option.some.injEq] at h
    subst h
    simp only [dayNumber, daysBeforeMonth_succ d.year d.month hpos]
    omega
  · split at h
    · simp only [Option.some.injEq] at h
      subst h
      have hm : d.month = 12 := by omega
      have hs : daysBeforeMonth d.year 13 = daysBeforeMonth d.year 12 + monthLength d.year 12 := rfl
      simp only [dayNumber, daysBeforeYear_succ, hm]
      rw [show daysBeforeMonth (d.year + 1) 1 = 0 from rfl]
      omega
    · exact absurd h (by simp)

/-- Only the last December has no month after it. -/
theorem firstOfNextMonth?_eq_none {d : Date} (h : d.firstOfNextMonth? = none) :
    d.year = lastYear ∧ d.month = 12 := by
  unfold firstOfNextMonth? at h
  have hle := d.month_le
  have hy := d.year_le
  split at h
  · exact absurd h (by simp)
  · split at h
    · exact absurd h (by simp)
    · omega

/-- **The next day is numbered one higher.** -/
theorem dayNumber_next? {d e : Date} (h : d.next? = some e) : e.dayNumber = d.dayNumber + 1 := by
  unfold next? at h
  have hle := d.day_le
  split at h
  · simp only [Option.some.injEq] at h
    subst h
    simp only [dayNumber]
    omega
  · have := dayNumber_firstOfNextMonth? h
    omega

/-- The day number of the last day of a date's month, when no month follows it. -/
theorem dayNumber_of_lastMonth {d : Date} (h : d.firstOfNextMonth? = none) :
    d.dayNumber + monthLength d.year d.month - d.day = last.dayNumber := by
  obtain ⟨hy, hm⟩ := firstOfNextMonth?_eq_none h
  simp only [dayNumber, hy, hm, last]
  rw [show monthLength lastYear 12 = 31 from rfl]
  omega

/-- **Only the last day of the calendar has no next day.** -/
theorem next?_eq_none_iff {d : Date} : d.next? = none ↔ d = last := by
  constructor
  · intro h
    unfold next? at h
    have hle := d.day_le
    split at h
    · exact absurd h (by simp)
    · have := dayNumber_of_lastMonth h
      exact eq_of_dayNumber_eq (by omega)
  · rintro rfl
    rfl

/-- **Adding days adds to the day number.** -/
theorem dayNumber_addDays? {d e : Date} {count : Nat} (h : d.addDays? count = some e) :
    e.dayNumber = d.dayNumber + count := by
  induction d, count using addDays?.induct with
  | case1 d count hle =>
    rw [addDays?, dif_pos hle, Option.some.injEq] at h
    subst h
    simp only [dayNumber]
    omega
  | case2 d count hlt hnone =>
    rw [addDays?, dif_neg hlt, hnone] at h
    exact absurd h (by simp)
  | case3 d count hlt first hfirst ih =>
    rw [addDays?, dif_neg hlt, hfirst] at h
    have h₁ := ih h
    have h₂ := dayNumber_firstOfNextMonth? hfirst
    omega

/-- **Adding days fails only beyond the last day of the calendar.** -/
theorem addDays?_eq_none_iff {d : Date} {count : Nat} :
    d.addDays? count = none ↔ last.dayNumber < d.dayNumber + count := by
  induction d, count using addDays?.induct with
  | case1 d count hle =>
    have hnum : (d.dayNumber + count : Int) ≤ last.dayNumber := by
      cases he : d.addDays? count with
      | none => rw [addDays?, dif_pos hle] at he; exact absurd he (by simp)
      | some e =>
        rw [← dayNumber_addDays? he]
        exact dayNumber_le_last e
    rw [addDays?, dif_pos hle]
    constructor
    · intro h
      exact absurd h (by simp)
    · omega
  | case2 d count hlt hnone =>
    rw [addDays?, dif_neg hlt, hnone]
    have := dayNumber_of_lastMonth hnone
    constructor
    · omega
    · exact fun _ => rfl
  | case3 d count hlt first hfirst ih =>
    rw [addDays?, dif_neg hlt, hfirst]
    have h₂ := dayNumber_firstOfNextMonth? hfirst
    rw [show (match some first with
      | none => none
      | some first => first.addDays? (d.day + count - (monthLength d.year d.month + 1)))
        = first.addDays? (d.day + count - (monthLength d.year d.month + 1)) from rfl, ih]
    omega

end Date

example : (Date.of? 2025 3 10).map Date.weekday = some 1 := by decide

example : (Date.of? 2024 2 29).bind (·.addYears? 1) = Date.of? 2025 3 1 := by decide

example : Date.of? 2023 2 29 = none := by decide

end Agenda
