import Agenda.Proofs.Calendar.Years

/-!
# Sums of years

Years can be added in two parts or at once.  Both ways lead to the same day, unless a 29 February comes to a common
year with the first part: it becomes 1 March there and stays 1 March, in leap years too.  However many years are
added, a later date does not lead to an earlier day.

* `IsCalendarYear`, `Date.RollsOverIn` — the years of the calendar, and those in which a day becomes 1 March.
* `Date.fields_of_addYears?`, `Date.fields_of_rollsOverIn` — the month and the day that years lead to.
* `Date.addYears?_addYears?`, `Date.fields_of_rollsOverIn_add` — years in two parts.
* `Date.addYears?_mono` — the order of the days that years lead to.
* `Date.addYears?_sums_and_order` — for all dates and all years.
-/

namespace Agenda

def IsCalendarYear (year : Int) : Prop := firstYear ≤ year ∧ year ≤ lastYear

instance (year : Int) : Decidable (IsCalendarYear year) := inferInstanceAs (Decidable (_ ∧ _))

namespace Date

/-- The date is a 29 February, and the year does not have that day. -/
def RollsOverIn (d : Date) (year : Int) : Prop := (d.month = 2 ∧ d.day = 29) ∧ isLeapYear year = false

instance (d : Date) (year : Int) : Decidable (d.RollsOverIn year) := inferInstanceAs (Decidable (_ ∧ _))

variable {d e f d' e' : Date} {a b : Int}

theorem exists_addYears? (h : IsCalendarYear (d.year + a)) : ∃ e, d.addYears? a = some e := by
  cases he : d.addYears? a with
  | none => exact absurd h (addYears?_eq_none_iff.1 he)
  | some e => exact ⟨e, rfl⟩

/-! ### The day that years lead to -/

/-- A day that does not roll over is kept. -/
theorem fields_of_addYears? (h : ¬ d.RollsOverIn (d.year + a)) (he : d.addYears? a = some e) :
    e.month = d.month ∧ e.day = d.day := by
  obtain ⟨-, hkept | ⟨⟨hmonth, hday, hcommon⟩, -⟩⟩ := addYears?_eq_some_iff.1 he
  · exact hkept
  · exact absurd ⟨⟨hmonth, hday⟩, hcommon⟩ h

/-- A day that rolls over becomes 1 March. -/
theorem fields_of_rollsOverIn (h : d.RollsOverIn (d.year + a)) (he : d.addYears? a = some e) :
    e.month = 3 ∧ e.day = 1 := by
  obtain ⟨⟨hmonth, hday⟩, hcommon⟩ := h
  obtain ⟨hyear, ⟨hmonth', hday'⟩ | ⟨-, hmarch⟩⟩ := addYears?_eq_some_iff.1 he
  · -- a common year has no 29 February
    have hleap := isLeapYear_of_leapDay (hmonth'.trans hmonth) (hday'.trans hday)
    rw [hyear, hcommon] at hleap
    exact absurd hleap Bool.false_ne_true
  · exact hmarch

/-! ### Years in two parts -/

/-- **Years in two parts** lead where they lead at once, if the day does not roll over with the first part. -/
theorem addYears?_addYears? (h : ¬ d.RollsOverIn (d.year + a)) (he : d.addYears? a = some e) :
    e.addYears? b = d.addYears? (a + b) := by
  have hyear := (addYears?_eq_some_iff.1 he).1
  obtain ⟨hmonth, hday⟩ := fields_of_addYears? h he
  refine Option.ext fun f => ?_
  rw [addYears?_eq_some_iff, addYears?_eq_some_iff, hyear, hmonth, hday, Int.add_assoc]

/-- A day that has become 1 March with the first part stays 1 March with the second one. -/
theorem fields_of_rollsOverIn_add (h : d.RollsOverIn (d.year + a)) (he : d.addYears? a = some e)
    (hf : e.addYears? b = some f) : f.year = d.year + a + b ∧ f.month = 3 ∧ f.day = 1 := by
  obtain ⟨hmonth, hday⟩ := fields_of_rollsOverIn h he
  have hkept : ¬ e.RollsOverIn (e.year + b) := by
    rintro ⟨⟨hfebruary, -⟩, -⟩
    omega
  obtain ⟨hmonth', hday'⟩ := fields_of_addYears? hkept hf
  have hyear := (addYears?_eq_some_iff.1 he).1
  have hyear' := (addYears?_eq_some_iff.1 hf).1
  exact ⟨by rw [hyear', hyear], hmonth'.trans hmonth, hday'.trans hday⟩

/-! ### Order -/

/-- In a year without 29 February no other day lies between that day and 1 March. -/
theorem march_le_of_leapDay_le (hd : d.RollsOverIn (d.year + a)) (he : ¬ e.RollsOverIn (e.year + a))
    (hyear : d.year = e.year) (h : d ≤ e) : 3 ≤ e.month := by
  obtain ⟨⟨hmonth, hday⟩, hcommon⟩ := hd
  have hfields := le_iff_fields.1 h
  by_contra hearly
  have hfebruary : e.month = 2 := by omega
  have hlength : e.day ≤ 29 := by
    have hle := e.day_le
    rw [hfebruary, monthLength] at hle
    split at hle <;> omega
  exact he ⟨⟨hfebruary, by omega⟩, hyear ▸ hcommon⟩

/-- **A later date does not lead to an earlier day.** -/
theorem addYears?_mono (h : d ≤ e) (hd : d.addYears? a = some d') (he : e.addYears? a = some e') : d' ≤ e' := by
  have hfields := le_iff_fields.1 h
  have hyear := (addYears?_eq_some_iff.1 hd).1
  have hyear' := (addYears?_eq_some_iff.1 he).1
  have hday := e.day_pos
  rw [le_iff_fields]
  by_cases hrolls : d.RollsOverIn (d.year + a)
  · obtain ⟨hmonth₁, hday₁⟩ := fields_of_rollsOverIn hrolls hd
    by_cases hrolls' : e.RollsOverIn (e.year + a)
    · obtain ⟨hmonth₂, hday₂⟩ := fields_of_rollsOverIn hrolls' he
      omega
    · obtain ⟨hmonth₂, hday₂⟩ := fields_of_addYears? hrolls' he
      have hmarch := march_le_of_leapDay_le hrolls hrolls'
      by_cases hsame : d.year = e.year
      · have := hmarch hsame h
        omega
      · omega
  · obtain ⟨hmonth₁, hday₁⟩ := fields_of_addYears? hrolls hd
    by_cases hrolls' : e.RollsOverIn (e.year + a)
    · obtain ⟨hmonth₂, hday₂⟩ := fields_of_rollsOverIn hrolls' he
      obtain ⟨⟨hmonth, -⟩, -⟩ := hrolls'
      omega
    · obtain ⟨hmonth₂, hday₂⟩ := fields_of_addYears? hrolls' he
      omega

/-! ### All of it -/

/-- **Sums of years, and the order.**  Years lead nowhere exactly if their sum with the year of the date is no year
of the calendar, also if the sum does not fit 32 bits.  Added in two parts they lead where they lead at once, but
for a 29 February that comes to a common year with the first part: that one ends on 1 March.  They lead to a later
day, and keep the order of dates. -/
theorem addYears?_sums_and_order :
    (∀ (d : Date) (a : Int), d.addYears? a = none ↔ ¬ (-262143 ≤ d.year + a ∧ d.year + a ≤ 262142)) ∧
      (∀ (d : Date) (a : Int), d.year + a < -2147483648 ∨ 2147483647 < d.year + a → d.addYears? a = none) ∧
      (∀ (d : Date) (a b : Int), IsCalendarYear (d.year + a) → IsCalendarYear (d.year + a + b) →
        ∃ e f, d.addYears? a = some e ∧ e.addYears? b = some f ∧
          (¬ d.RollsOverIn (d.year + a) → d.addYears? (a + b) = some f) ∧
          (d.RollsOverIn (d.year + a) → f.year = d.year + a + b ∧ f.month = 3 ∧ f.day = 1)) ∧
      (∀ (d e : Date) (a : Int), 1 ≤ a → d.addYears? a = some e → d < e) ∧
      ∀ (d₁ d₂ e₁ e₂ : Date) (a : Int), d₁ ≤ d₂ → d₁.addYears? a = some e₁ → d₂.addYears? a = some e₂ →
        e₁ ≤ e₂ := by
  refine ⟨fun d a => addYears?_eq_none_iff, ?_, ?_, fun d e a => lt_of_addYears?, ?_⟩
  · intro d a hsum
    refine addYears?_eq_none_iff.2 fun hrange => ?_
    rw [firstYear, lastYear] at hrange
    omega
  · intro d a b ha hb
    obtain ⟨e, he⟩ := exists_addYears? ha
    have hyear := (addYears?_eq_some_iff.1 he).1
    rw [← hyear] at hb
    obtain ⟨f, hf⟩ := exists_addYears? hb
    refine ⟨e, f, he, hf, fun hkept => ?_, fun hrolls => fields_of_rollsOverIn_add hrolls he hf⟩
    rw [← addYears?_addYears? hkept he, hf]
  · intro d₁ d₂ e₁ e₂ a h h₁ h₂
    exact addYears?_mono h h₁ h₂

/-- Four years lead from 29 February 2024 to 29 February 2028, but by way of the year after it to 1 March 2028.  The
day before it stays before it; and a sum that does not fit 32 bits is no year. -/
theorem addYears?_sums_and_order_from_leapDay :
    let leapDay : Date := ⟨2024, 2, 29, by decide, by decide, by decide, by decide, by decide, by decide⟩
    let eve : Date := ⟨2024, 2, 28, by decide, by decide, by decide, by decide, by decide, by decide⟩
    let eveAgain : Date := ⟨2025, 2, 28, by decide, by decide, by decide, by decide, by decide, by decide⟩
    let march : Date := ⟨2025, 3, 1, by decide, by decide, by decide, by decide, by decide, by decide⟩
    let nextLeapDay : Date := ⟨2028, 2, 29, by decide, by decide, by decide, by decide, by decide, by decide⟩
    (leapDay.RollsOverIn 2025 ∧ leapDay.addYears? 4 = some nextLeapDay ∧
      ∃ f, march.addYears? 3 = some f ∧ f.year = 2028 ∧ f.month = 3 ∧ f.day = 1) ∧
      (¬ leapDay.RollsOverIn 2028 ∧ nextLeapDay.addYears? (-3) = leapDay.addYears? 1) ∧
      leapDay < march ∧ (eve ≤ leapDay ∧ eve.addYears? 1 = some eveAgain ∧ eveAgain ≤ march) ∧
      last.addYears? 2147483647 = none ∧ march.addYears? 260118 = none := by
  intro leapDay eve eveAgain march nextLeapDay
  obtain ⟨hnone, hoverflow, hparts, hlater, hmono⟩ := addYears?_sums_and_order
  have hmarch : leapDay.addYears? 1 = some march := by decide
  have heve : eve.addYears? 1 = some eveAgain := by decide
  have hleap : leapDay.addYears? 4 = some nextLeapDay := by decide
  have hrolls : leapDay.RollsOverIn (leapDay.year + 1) := by decide
  have hkept : ¬ leapDay.RollsOverIn (leapDay.year + 4) := by decide
  have hle : eve ≤ leapDay := by decide
  refine ⟨⟨hrolls, hleap, ?_⟩, ⟨hkept, ?_⟩, hlater _ _ 1 (by decide) hmarch, ⟨hle, heve, ?_⟩,
    hoverflow last 2147483647 (by decide), (hnone march 260118).2 (by decide)⟩
  · obtain ⟨e, f, he, hf, -, hfields⟩ := hparts leapDay 1 3 (by decide) (by decide)
    obtain rfl : march = e := Option.some.inj (hmarch.symm.trans he)
    exact ⟨f, hf, hfields hrolls⟩
  · obtain ⟨e, f, he, hf, hsum, -⟩ := hparts leapDay 4 (-3) (by decide) (by decide)
    obtain rfl : nextLeapDay = e := Option.some.inj (hleap.symm.trans he)
    exact hf.trans (hsum hkept).symm
  · exact hmono eve leapDay eveAgain march 1 hle heve hmarch

end Date

end Agenda
