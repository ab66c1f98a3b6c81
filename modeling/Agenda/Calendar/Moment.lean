import Agenda.Calendar.Date

/-!
# Moments

A moment is a date with a time of day and has no time zone. Moments are ordered as they follow each
other in time, so midnight is the first moment of its day.  The last second of a minute may be a leap
second, which lasts for two seconds and still belongs to its minute.

* `lt_midnight_iff` — midnight of a date lies after a moment exactly if the date lies after its day.
-/

namespace Agenda

abbrev nanosecondsPerSecond : Nat := 1000000000

structure TimeOfDay where
  hour : Nat
  minute : Nat
  second : Nat
  nanosecond : Nat
  hour_lt : hour < 24
  minute_lt : minute < 60
  second_lt : second < 60
  nanosecond_lt : nanosecond < nanosecondsPerSecond ∨ second = 59 ∧ nanosecond < 2 * nanosecondsPerSecond
deriving DecidableEq, Repr

namespace TimeOfDay

def midnight : TimeOfDay := ⟨0, 0, 0, 0, by decide, by decide, by decide, by decide⟩

def of? (hour minute second nanosecond : Nat) : Option TimeOfDay :=
  if h : (hour < 24 ∧ minute < 60) ∧ second < 60 ∧
      (nanosecond < nanosecondsPerSecond ∨ second = 59 ∧ nanosecond < 2 * nanosecondsPerSecond) then
    some ⟨hour, minute, second, nanosecond, h.1.1, h.1.2, h.2.1, h.2.2⟩
  else
    none

def secondsSinceMidnight (t : TimeOfDay) : Nat := (t.hour * 60 + t.minute) * 60 + t.second

/-- Times are compared by their full seconds, then by their nanoseconds. -/
instance : LT TimeOfDay where
  lt a b := a.secondsSinceMidnight < b.secondsSinceMidnight ∨
    a.secondsSinceMidnight = b.secondsSinceMidnight ∧ a.nanosecond < b.nanosecond

instance (a b : TimeOfDay) : Decidable (a < b) :=
  inferInstanceAs (Decidable (a.secondsSinceMidnight < b.secondsSinceMidnight ∨
    a.secondsSinceMidnight = b.secondsSinceMidnight ∧ a.nanosecond < b.nanosecond))

/-- No time of day lies before its beginning. -/
theorem not_lt_midnight (t : TimeOfDay) : ¬ t < midnight := by
  rintro (h | ⟨_, h⟩) <;> exact Nat.not_lt_zero _ h

end TimeOfDay

structure Moment where
  date : Date
  time : TimeOfDay
deriving DecidableEq, Repr

namespace Moment

/-- Moments are compared by date, then by time of day. -/
instance : LT Moment where
  lt a b := a.date < b.date ∨ a.date = b.date ∧ a.time < b.time

instance (a b : Moment) : Decidable (a < b) :=
  inferInstanceAs (Decidable (a.date < b.date ∨ a.date = b.date ∧ a.time < b.time))

def midnight (d : Date) : Moment := ⟨d, .midnight⟩

def startOfDay (m : Moment) : Moment := midnight m.date

/-- **Midnight of a date lies after a moment exactly if the date lies after the moment's day.** -/
theorem lt_midnight_iff {m : Moment} {d : Date} : m < midnight d ↔ m.date < d := by
  constructor
  · rintro (h | ⟨_, h⟩)
    · exact h
    · exact absurd h (TimeOfDay.not_lt_midnight _)
  · exact .inl

end Moment

end Agenda
