import Agenda.Calendar.Date
import Mathlib.Order.Defs.LinearOrder
import Mathlib.Order.MinMax

/-!
# The calendar as a linear order

Dates are linearly ordered, and numbering them by `dayNumber` embeds them into the integers without a gap:
every number up to that of the last day belongs to a date.

* `latest_eq_max` — the later of two dates is their maximum.
* `addDays?_eq_some_iff` — adding days is exactly adding to the day number.
* `exists_dayNumber_eq` — no number between that of a date and that of the last day is left out.
* `IsEarliest` — what a search through the calendar answers: the earliest day with a property, or none.
-/

namespace Agenda

namespace Date

instance : LinearOrder Date where
  le_refl d := le_iff_dayNumber_le.2 le_rfl
  le_trans a b c hab hbc :=
    le_iff_dayNumber_le.2 ((le_iff_dayNumber_le.1 hab).trans (le_iff_dayNumber_le.1 hbc))
  lt_iff_le_not_ge a b := by
    rw [lt_iff_dayNumber_lt, le_iff_dayNumber_le, le_iff_dayNumber_le]
    omega
  le_antisymm a b hab hba :=
    eq_of_dayNumber_eq (le_antisymm (le_iff_dayNumber_le.1 hab) (le_iff_dayNumber_le.1 hba))
  le_total a b := by
    rw [le_iff_dayNumber_le, le_iff_dayNumber_le]
    omega
  toDecidableLE := inferInstance
  toDecidableEq := inferInstance
  toDecidableLT := inferInstance

theorem latest_eq_max (a b : Date) : a.latest b = max a b := rfl

theorem le_last (d : Date) : d ≤ last := le_iff_dayNumber_le.2 (dayNumber_le_last d)

/-- The order, field by field. -/
theorem le_iff_fields {a b : Date} :
    a ≤ b ↔ a.year < b.year ∨ a.year = b.year ∧ (a.month < b.month ∨ a.month = b.month ∧ a.day ≤ b.day) := by
  show ¬ (_ ∨ _) ↔ _
  omega

/-- The year is the leading part of the order. -/
theorem year_le_of_le {a b : Date} (h : a ≤ b) : a.year ≤ b.year := by
  by_contra hlt
  exact h (.inl (by omega))

/-! ### Steps and day numbers -/

theorem next?_eq_some_iff {d e : Date} : d.next? = some e ↔ e.dayNumber = d.dayNumber + 1 := by
  constructor
  · exact dayNumber_next?
  · intro h
    cases hd : d.next? with
    | none =>
      have hlast := next?_eq_none_iff.1 hd
      have := dayNumber_le_last e
      rw [hlast] at h
      omega
    | some f =>
      have := dayNumber_next? hd
      exact congrArg some (eq_of_dayNumber_eq (by omega))

/-- **Adding days is exactly adding to the day number.** -/
theorem addDays?_eq_some_iff {d e : Date} {count : Nat} :
    d.addDays? count = some e ↔ e.dayNumber = d.dayNumber + count := by
  constructor
  · exact dayNumber_addDays?
  · intro h
    cases hd : d.addDays? count with
    | none =>
      have hnone := addDays?_eq_none_iff.1 hd
      have := dayNumber_le_last e
      omega
    | some f =>
      have := dayNumber_addDays? hd
      exact congrArg some (eq_of_dayNumber_eq (by omega))

theorem lt_of_addDays? {d e : Date} {count : Nat} (hpos : 0 < count) (h : d.addDays? count = some e) :
    d < e := by
  rw [lt_iff_dayNumber_lt, dayNumber_addDays? h]
  omega

/-- Every number from that of a date to that of the last day belongs to a date. -/
theorem exists_dayNumber_eq {d : Date} {n : Int} (h : d.dayNumber ≤ n) (hlast : n ≤ last.dayNumber) :
    ∃ e : Date, e.dayNumber = n := by
  cases he : d.addDays? (n - d.dayNumber).toNat with
  | none =>
    have hnone := addDays?_eq_none_iff.1 he
    omega
  | some e =>
    have := dayNumber_addDays? he
    exact ⟨e, by omega⟩

/-- The next day is the first of the later days. -/
theorem le_of_next?_of_lt {d e f : Date} (h : d.next? = some e) (hf : d < f) : e ≤ f := by
  have hnext := dayNumber_next? h
  have hlt := lt_iff_dayNumber_lt.1 hf
  rw [le_iff_dayNumber_le]
  omega

/-- A date is on or after the next day exactly if it is after the day itself. -/
theorem next?_le_iff {d e f : Date} (h : d.next? = some e) : e ≤ f ↔ d < f := by
  have hnext := dayNumber_next? h
  rw [le_iff_dayNumber_le, lt_iff_dayNumber_lt]
  omega

end Date

/-! ### The answer of a search -/

/-- The answer is the earliest date with a property, or none because no date has it. -/
def IsEarliest (answer : Option Date) (p : Date → Prop) : Prop :=
  match answer with
  | some d => p d ∧ ∀ e, p e → d ≤ e
  | none => ∀ e, ¬ p e

namespace IsEarliest

variable {answer other : Option Date} {p q : Date → Prop} {d : Date}

theorem congr (h : IsEarliest answer p) (hpq : ∀ d, p d ↔ q d) : IsEarliest answer q := by
  obtain rfl : p = q := funext fun d => propext (hpq d)
  exact h

/-- Two searches for the same property agree. -/
theorem unique (h : IsEarliest answer p) (h' : IsEarliest other p) : answer = other := by
  cases answer with
  | none =>
    cases other with
    | none => rfl
    | some e => exact absurd h'.1 (h e)
  | some d =>
    cases other with
    | none => exact absurd h.1 (h' d)
    | some e => exact congrArg some (le_antisymm (h.2 e h'.1) (h'.2 d h.1))

theorem eq_some_iff (h : IsEarliest answer p) : answer = some d ↔ p d ∧ ∀ e, p e → d ≤ e := by
  constructor
  · rintro rfl
    exact h
  · exact fun hd => h.unique (show IsEarliest (some d) p from hd)

theorem eq_none_iff (h : IsEarliest answer p) : answer = none ↔ ∀ e, ¬ p e := by
  constructor
  · rintro rfl
    exact h
  · exact fun hnone => h.unique (show IsEarliest none p from hnone)

/-- Where some date has the property, the search finds one, and finds it no later. -/
theorem exists_le (h : IsEarliest answer p) {e : Date} (he : p e) :
    ∃ d, answer = some d ∧ p d ∧ d ≤ e := by
  cases answer with
  | none => exact absurd he (h e)
  | some d => exact ⟨d, rfl, h.1, h.2 e he⟩

end IsEarliest

end Agenda
