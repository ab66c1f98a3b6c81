import Agenda.Proofs.Rule.Reach
import Agenda.Proofs.Rule.Reading

/-!
# How far away the next occurrence is

The next occurrence of a rule that can be read is not far from today, or from the later of today and the
start: less than the interval for a daily rule, a year for a yearly one, a week for a weekly one.  A monthly
rule may have to wait for the 29 February, which is left out in most of the centuries; then 2921 days pass
from one to the next, and no rule waits longer.

* `Date.leapDays_around_century` — the 29 February after the one before such a century.
* `Rule.latestNext?` — the last date on which a rule may occur next.
* `Rule.exists_le_latestNext?` — it occurs no later than that.
* `Rule.nextAfter?_soon` — the same for the texts of rules, with a rule that does wait 2921 days.
-/

namespace Agenda

namespace Date

variable {d : Date}

/-- A date later by so many days, where the calendar does not end before it. -/
theorem exists_addDays? {count : Nat} (h : d.dayNumber + count ≤ last.dayNumber) :
    ∃ e, d.addDays? count = some e ∧ e.dayNumber = d.dayNumber + count := by
  obtain ⟨e, he⟩ := exists_dayNumber_eq (d := d) (n := d.dayNumber + count) (by omega) h
  exact ⟨e, addDays?_eq_some_iff.2 he, he⟩

theorem dayNumber_add_le_of_isSome {count : Nat} (h : (d.addDays? count).isSome = true) :
    d.dayNumber + count ≤ last.dayNumber := by
  obtain ⟨e, he⟩ := Option.isSome_iff_exists.1 h
  rw [← dayNumber_addDays? he]
  exact dayNumber_le_last e

theorem dayNumber_leapDay (hmonth : d.month = 2) (hday : d.day = 29) :
    d.dayNumber = daysBeforeYear d.year + 60 := by
  rw [dayNumber, hmonth, hday, show daysBeforeMonth d.year 2 = 31 from rfl]
  omega

/-- **Around a century that is no leap year 2921 days lie between one 29 February and the next.**  The calendar
does not end between them. -/
theorem leapDays_around_century (hmonth : d.month = 2) (hday : d.day = 29)
    (hcentury : isLeapYear (d.year + 4) = false) :
    ∃ e, d.addDays? 2921 = some e ∧ (d < e ∧ e.month = 2 ∧ e.day = 29) ∧
      ∀ f, d < f → f.month = 2 → f.day = 29 → e ≤ f := by
  have hleap := isLeapYear_of_leapDay hmonth hday
  have hfirst := d.firstYear_le
  have hlast := d.year_le
  simp only [isLeapYear, Bool.and_eq_true, beq_iff_eq, Bool.or_eq_true, bne_iff_ne, Bool.and_eq_false_iff,
    beq_eq_false_iff_ne, Bool.or_eq_false_iff, bne_eq_false_iff_eq] at hleap hcentury
  have hlater : isLeapYear (d.year + 8) = true := by
    simp only [isLeapYear, Bool.and_eq_true, beq_iff_eq, Bool.or_eq_true, bne_iff_ne]
    omega
  have hyear : d.year + 8 ≤ lastYear := by
    rw [lastYear] at hlast ⊢
    omega
  have hlength : 29 ≤ monthLength (d.year + 8) 2 := by simp [monthLength, hlater]
  let e : Date := ⟨d.year + 8, 2, 29, by omega, hyear, by omega, by omega, by omega, hlength⟩
  have hnumber : e.dayNumber = daysBeforeYear (d.year + 8) + 60 := dayNumber_leapDay rfl rfl
  have hdistance : e.dayNumber = d.dayNumber + 2921 := by
    rw [hnumber, dayNumber_leapDay hmonth hday, daysBeforeYear, daysBeforeYear]
    omega
  refine ⟨e, addDays?_eq_some_iff.2 hdistance, ⟨lt_iff_dayNumber_lt.2 (by omega), rfl, rfl⟩, ?_⟩
  intro f hlt hmonth' hday'
  have hleap' := isLeapYear_of_leapDay hmonth' hday'
  simp only [isLeapYear, Bool.and_eq_true, beq_iff_eq, Bool.or_eq_true, bne_iff_ne] at hleap'
  -- a later 29 February lies in a later year, and no year before the eighth one has it
  have hlater' : d.year < f.year := by
    rcases hlt with hy | ⟨-, hm | ⟨-, hd⟩⟩
    · exact hy
    · omega
    · omega
  rintro (hy | ⟨-, hm | ⟨-, hd⟩⟩)
  · have hy : f.year < d.year + 8 := hy
    omega
  · exact absurd hm (by rw [hmonth']; exact Nat.lt_irrefl 2)
  · exact absurd hd (by rw [hday']; exact Nat.lt_irrefl 29)

end Date

namespace Rule

/-- The last date on which a rule may occur next, for a task that starts on a date; none if the calendar ends
before it. -/
def latestNext? (rule : Rule) (today start : Date) : Option Date :=
  match rule with
  | .daily interval => (today.addDays? (interval - 1)).map (max start)
  | .yearly => (today.addDays? 365).map (max start)
  | .weekly _ => (max start today).addDays? 7
  | .monthly _ _ => (max start today).addDays? 2921

variable {rule : Rule} {now : Moment} {today start d : Date}

/-- A date within so many days from today is no later than the last of these days. -/
theorem exists_le_addDays? (count : Nat) (hroom : today.dayNumber + count ≤ Date.last.dayNumber)
    (h : d.dayNumber ≤ today.dayNumber + count) : ∃ limit, today.addDays? count = some limit ∧ d ≤ limit := by
  obtain ⟨e, he, hnumber⟩ := Date.exists_addDays? hroom
  exact ⟨e, he, Date.le_iff_dayNumber_le.2 (by omega)⟩

/-- The start, or a date within so many days from today, is no later than the start or the last of these days,
whichever is later. -/
theorem exists_le_max_addDays? (count : Nat) (hroom : today.dayNumber + count ≤ Date.last.dayNumber)
    (h : d = start ∨ d.dayNumber ≤ today.dayNumber + count) :
    ∃ limit, (today.addDays? count).map (max start) = some limit ∧ d ≤ limit := by
  rcases h with rfl | h
  · obtain ⟨e, he, -⟩ := Date.exists_addDays? hroom
    exact ⟨max d e, by rw [he]; rfl, le_max_left d e⟩
  · obtain ⟨e, he, hle⟩ := exists_le_addDays? count hroom h
    exact ⟨max start e, by rw [he]; rfl, le_max_of_le_right hle⟩

/-- **The next occurrence of a well-formed rule exists and is no later than its last date**, unless the
calendar ends soon. -/
theorem exists_le_latestNext? (h : rule.WellFormed)
    (hroom : (max start now.date).dayNumber + longestPause ≤ Date.last.dayNumber) :
    ∃ d limit, rule.nextAfter? now start = some d ∧ rule.latestNext? now.date start = some limit ∧
      d ≤ limit := by
  have hnow := Date.le_iff_dayNumber_le.1 (le_max_right start now.date)
  have hpause : longestPause = 2921 := rfl
  cases rule with
  | daily interval =>
    have hpos : 1 ≤ interval := h.1
    have hle : interval ≤ 400 := h.2
    obtain ⟨d, hd, hbound⟩ := exists_nextAfter?_of_countsFromStart rfl h now start (by omega)
    rw [pause] at hbound
    have hbound : d = start ∨ d.dayNumber ≤ now.date.dayNumber + (interval - 1 : Nat) :=
      hbound.imp_right fun hb => by omega
    obtain ⟨limit, hlimit, hlast⟩ := exists_le_max_addDays? (interval - 1) (by omega) hbound
    exact ⟨d, limit, hd, hlimit, hlast⟩
  | yearly =>
    obtain ⟨d, hd, hbound⟩ := exists_nextAfter?_of_countsFromStart rfl h now start (by omega)
    obtain ⟨limit, hlimit, hlast⟩ := exists_le_max_addDays? 365 (by omega) hbound
    exact ⟨d, limit, hd, hlimit, hlast⟩
  | weekly weekdays =>
    obtain ⟨d, hd, hbound⟩ := exists_nextAfter?_of_not_countsFromStart rfl h now start hroom
    obtain ⟨limit, hlimit, hlast⟩ := exists_le_addDays? 7 (by omega) hbound
    exact ⟨d, limit, hd, hlimit, hlast⟩
  | monthly days months =>
    obtain ⟨d, hd, hbound⟩ := exists_nextAfter?_of_not_countsFromStart rfl h now start hroom
    obtain ⟨limit, hlimit, hlast⟩ := exists_le_addDays? 2921 (by omega) hbound
    exact ⟨d, limit, hd, hlimit, hlast⟩

/-- The rule of the 29 February. -/
def onLeapDays : Rule := .monthly ⟨.ofList [29], false, false⟩ (.ofList [2])

theorem occursOn_onLeapDays_iff : onLeapDays.OccursOn start d ↔ d.month = 2 ∧ d.day = 29 := by
  show d.month ∈ NumberSet.ofList [2] ∧ (d.day ∈ NumberSet.ofList [29] ∨ _ ∨ _) ↔ _
  simp

/-- From a 29 February before a century that is no leap year the rule of this day waits 2921 days. -/
theorem nextAfter?_onLeapDays (hmonth : (max start now.date).month = 2) (hday : (max start now.date).day = 29)
    (hcentury : isLeapYear ((max start now.date).year + 4) = false) :
    ∃ d, onLeapDays.nextAfter? now start = some d ∧ (max start now.date).addDays? 2921 = some d := by
  obtain ⟨d, hd, ⟨hlt, hleap⟩, hleast⟩ := Date.leapDays_around_century hmonth hday hcentury
  refine ⟨d, ?_, hd⟩
  rw [(nextAfter?_isEarliest_of_not_countsFromStart rfl now start).eq_some_iff]
  refine ⟨⟨occursOn_onLeapDays_iff.2 hleap, max_lt_iff.1 hlt⟩, fun e he => ?_⟩
  obtain ⟨hmonth', hday'⟩ := occursOn_onLeapDays_iff.1 he.1
  exact hleast e (max_lt_iff.2 he.2) hmonth' hday'

/-- **The next occurrence of a rule that can be read is not far away**: if 2921 days after the later of today
and the start are still in the calendar, it exists and is no later than its last date.  The rule of the
29 February does take all of the 2921 days, around every century that is no leap year. -/
theorem nextAfter?_soon :
    (∀ text rule now start, parse text = .ok rule → ((max start now.date).addDays? 2921).isSome = true →
      ∃ d limit, withinCalendar (rule.nextAfter? now start) = .ok d ∧
        rule.latestNext? now.date start = some limit ∧ d ≤ limit) ∧
    ∃ rule, parse "m 29 2" = .ok rule ∧
      ∀ now start, (max start now.date).month = 2 → (max start now.date).day = 29 →
        isLeapYear ((max start now.date).year + 4) = false →
        ∃ d, withinCalendar (rule.nextAfter? now start) = .ok d ∧
          (max start now.date).addDays? 2921 = some d := by
  constructor
  · intro text rule now start hparse hroom
    have hroom := Date.dayNumber_add_le_of_isSome hroom
    obtain ⟨d, limit, hd, hlimit, hle⟩ := exists_le_latestNext? (wellFormed_of_parse hparse) hroom
    exact ⟨d, limit, withinCalendar_eq_ok_iff.2 hd, hlimit, hle⟩
  · refine ⟨onLeapDays, by decide, fun now start hmonth hday hcentury => ?_⟩
    obtain ⟨d, hd, hdistance⟩ := nextAfter?_onLeapDays hmonth hday hcentury
    exact ⟨d, withinCalendar_eq_ok_iff.2 hd, hdistance⟩

/-- From 29 February 2096 the next one is that of 2104. -/
theorem nextAfter?_soon_around_2100 :
    let before : Date := ⟨2096, 2, 29, by decide, by decide, by decide, by decide, by decide, by decide⟩
    let after : Date := ⟨2104, 2, 29, by decide, by decide, by decide, by decide, by decide, by decide⟩
    (∃ rule, parse "m 29 2" = .ok rule ∧
      withinCalendar (rule.nextAfter? (.midnight before) before) = .ok after) ∧
    ∃ d limit, withinCalendar ((daily 400).nextAfter? (.midnight after) before) = .ok d ∧
      (daily 400).latestNext? after before = some limit ∧ d ≤ limit := by
  intro before after
  obtain ⟨hbound, rule, hrule, hleap⟩ := nextAfter?_soon
  have hdistance : before.addDays? 2921 = some after := Date.addDays?_eq_some_iff.2 (by decide)
  constructor
  · refine ⟨rule, hrule, ?_⟩
    obtain ⟨d, hd, hdays⟩ := hleap (.midnight before) before rfl rfl rfl
    obtain rfl : after = d := Option.some.inj (hdistance.symm.trans hdays)
    exact hd
  · have hmax : max before after = after := max_eq_right (by decide)
    have hroom : after.addDays? 2921 =
        some ⟨2112, 2, 28, by decide, by decide, by decide, by decide, by decide, by decide⟩ :=
      Date.addDays?_eq_some_iff.2 (by decide)
    refine hbound "d 400" _ (.midnight after) before (by decide) ?_
    show ((max before after).addDays? 2921).isSome = true
    rw [hmax, hroom]
    rfl

end Rule

end Agenda
