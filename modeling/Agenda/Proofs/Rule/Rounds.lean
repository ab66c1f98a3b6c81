import Agenda.Proofs.Rule.Occurrence

/-!
# The rounds of the search in a series

A rule that counts from its start goes on round by round: as long as the date lies before the bound, a step is
taken, until the bound is reached or a step leads out of the calendar.  Nothing but the bound and the end of the
calendar stops it.  Steps that lead forward end after fewer rounds than there are days before the bound, and a
daily rule stops at the first multiple of its interval.

* `Date.Rounds` — the rounds of a search, with their number and the answer.
* `Date.endsWith_firstInSeries?` — steps forward end, with one answer after one number of rounds.
* `Rule.daily_first_multiple` — the date at which a daily rule stops, and when there is none.
-/

namespace Agenda

namespace Date

/-- The rounds of a search in a series: how many steps are taken from a date, and what they lead to. -/
inductive Rounds (step : Date → Option Date) (bound : Date) : Nat → Date → Option Date → Prop
  /-- The bound is reached. -/
  | reached {d : Date} : bound ≤ d → Rounds step bound 0 d (some d)
  /-- The next step leads out of the calendar. -/
  | outside {d : Date} : d < bound → step d = none → Rounds step bound 0 d none
  /-- A step is taken, and the search goes on from there. -/
  | step {d e : Date} {n : Nat} {answer : Option Date} :
      d < bound → step d = some e → Rounds step bound n e answer → Rounds step bound (n + 1) d answer

section Rounds

variable {step : Date → Option Date} {bound d : Date}

/-- Steps forward reach the bound or leave the calendar, after no more rounds than there are days before the
bound. -/
theorem exists_rounds (hstep : ∀ d e, step d = some e → d < e) (bound d : Date) :
    ∃ n : Nat, n ≤ (bound.dayNumber - d.dayNumber).toNat ∧
      Rounds step bound n d (d.firstInSeries? step bound) := by
  induction d using firstInSeries?.induct step bound with
  | case1 d hle =>
    rw [firstInSeries?, if_pos hle]
    exact ⟨0, Nat.zero_le _, .reached hle⟩
  | case2 d hlt hnone =>
    rw [firstInSeries?, if_neg hlt, hnone]
    exact ⟨0, Nat.zero_le _, .outside (not_le.1 hlt) hnone⟩
  | case3 d hlt e hsome hde ih =>
    rw [firstInSeries?, if_neg hlt, hsome]
    simp only [hde, if_true]
    obtain ⟨n, hn, hrounds⟩ := ih
    have hbefore := lt_iff_dayNumber_lt.1 (not_le.1 hlt)
    have hforward := lt_iff_dayNumber_lt.1 hde
    exact ⟨n + 1, by omega, .step (not_le.1 hlt) hsome hrounds⟩
  | case4 d hlt e hsome hde => exact absurd (hstep d e hsome) hde

/-- The rounds of a search do not depend on anything but its beginning. -/
theorem Rounds.unique {n m : Nat} {answer other : Option Date} (h : Rounds step bound n d answer)
    (h' : Rounds step bound m d other) : m = n ∧ other = answer := by
  induction h generalizing m other with
  | reached hle =>
    cases h' with
    | reached _ => exact ⟨rfl, rfl⟩
    | outside hlt _ => exact absurd hle (not_le.2 hlt)
    | step hlt _ _ => exact absurd hle (not_le.2 hlt)
  | outside hlt hnone =>
    cases h' with
    | reached hle => exact absurd hle (not_le.2 hlt)
    | outside _ _ => exact ⟨rfl, rfl⟩
    | step _ hsome _ => exact absurd (hnone.symm.trans hsome) (by simp)
  | step hlt hsome _ ih =>
    cases h' with
    | reached hle => exact absurd hle (not_le.2 hlt)
    | outside _ hnone => exact absurd (hnone.symm.trans hsome) (by simp)
    | step _ hsome' hrest =>
      obtain rfl := Option.some.inj (hsome.symm.trans hsome')
      obtain ⟨rfl, rfl⟩ := ih hrest
      exact ⟨rfl, rfl⟩

/-- A search ends with an answer, after no more rounds than there are days before the bound, and in no other
way. -/
def EndsWith (step : Date → Option Date) (bound d : Date) (answer : Option Date) : Prop :=
  ∃ n : Nat, n ≤ (bound.dayNumber - d.dayNumber).toNat ∧
    ∀ m other, Rounds step bound m d other ↔ m = n ∧ other = answer

/-- **Steps forward end**, and with the answer of the search. -/
theorem endsWith_firstInSeries? (hstep : ∀ d e, step d = some e → d < e) (bound d : Date) :
    EndsWith step bound d (d.firstInSeries? step bound) := by
  obtain ⟨n, hn, hrounds⟩ := exists_rounds hstep bound d
  refine ⟨n, hn, fun m other => ⟨hrounds.unique, ?_⟩⟩
  rintro ⟨rfl, rfl⟩
  exact hrounds

end Rounds

end Date

namespace Rule

variable {interval : Nat} {now : Moment} {start d : Date}

/-- Later multiples of an interval are later dates. -/
theorem addDays?_mul_le_iff (hpos : 0 < interval) {j k : Nat} {d e : Date}
    (hd : start.addDays? (k * interval) = some d) (he : start.addDays? (j * interval) = some e) :
    d ≤ e ↔ k ≤ j := by
  rw [Date.le_iff_dayNumber_le, Date.dayNumber_addDays? hd, Date.dayNumber_addDays? he]
  constructor
  · intro h
    exact Nat.le_of_mul_le_mul_right (by omega) hpos
  · intro h
    have := Nat.mul_le_mul_right interval h
    omega

theorem daily_isEarliest (hpos : 0 < interval) (now : Moment) (start : Date) :
    IsEarliest ((daily interval).nextAfter? now start) fun d =>
      (∃ k : Nat, start.addDays? (k * interval) = some d) ∧ now.date ≤ d :=
  nextAfter?_isEarliest_of_countsFromStart rfl (show (daily interval).MovesOn from hpos) now start

/-- The earliest date among the multiples of an interval belongs to the least of them. -/
theorem daily_eq_some_iff (hpos : 0 < interval) :
    (daily interval).nextAfter? now start = some d ↔
      ∃ k : Nat, start.addDays? (k * interval) = some d ∧
        IsLeast {j : Nat | ∃ e, start.addDays? (j * interval) = some e ∧ now.date ≤ e} k := by
  rw [(daily_isEarliest hpos now start).eq_some_iff]
  constructor
  · rintro ⟨⟨⟨k, hk⟩, hle⟩, hleast⟩
    refine ⟨k, hk, ⟨d, hk, hle⟩, ?_⟩
    rintro j ⟨e, he, hnow⟩
    exact (addDays?_mul_le_iff hpos hk he).1 (hleast e ⟨⟨j, he⟩, hnow⟩)
  · rintro ⟨k, hk, ⟨d', hd', hle⟩, hleast⟩
    obtain rfl := Option.some.inj (hk.symm.trans hd')
    refine ⟨⟨⟨k, hk⟩, hle⟩, ?_⟩
    rintro e ⟨⟨j, he⟩, hnow⟩
    exact (addDays?_mul_le_iff hpos hk he).2 (hleast ⟨e, he, hnow⟩)

/-- One step before the answer of a daily rule, today is not reached yet. -/
theorem daily_step_before (hpos : 0 < interval) (h : (daily interval).nextAfter? now start = some d)
    (hne : d ≠ start) : ∃ e, start ≤ e ∧ e.addDays? interval = some d ∧ e < now.date := by
  obtain ⟨k, hk, -, hleast⟩ := (daily_eq_some_iff hpos).1 h
  have hday := Date.dayNumber_addDays? hk
  cases k with
  | zero => exact absurd (Date.eq_of_dayNumber_eq (by omega)) hne
  | succ k =>
    rw [Nat.succ_mul] at hday
    have hlast := Date.dayNumber_le_last d
    obtain ⟨e, he⟩ := Date.exists_dayNumber_eq (d := start) (n := start.dayNumber + (k * interval : Nat))
      (by omega) (by omega)
    refine ⟨e, Date.le_iff_dayNumber_le.2 (by omega), Date.addDays?_eq_some_iff.2 (by omega), ?_⟩
    -- otherwise one step less would have been enough
    by_contra hge
    have hless := hleast ⟨e, Date.addDays?_eq_some_iff.2 he, not_lt.1 hge⟩
    omega

/-- **A daily rule stops at the first multiple of its interval that is not in the past**, and leaves the calendar
exactly if none of the multiples in it is late enough. -/
theorem daily_first_multiple (hpos : 0 < interval) (now : Moment) (start : Date) :
    Date.EndsWith (·.addDays? interval) now.date start ((daily interval).nextAfter? now start) ∧
    (∀ d, withinCalendar ((daily interval).nextAfter? now start) = .ok d ↔
      ∃ k : Nat, start.addDays? (k * interval) = some d ∧
        IsLeast {j : Nat | ∃ e, start.addDays? (j * interval) = some e ∧ now.date ≤ e} k) ∧
    (withinCalendar ((daily interval).nextAfter? now start) = .error .outOfCalendar ↔
      ∀ (k : Nat) (d : Date), start.addDays? (k * interval) = some d → d < now.date) ∧
    ∀ d, withinCalendar ((daily interval).nextAfter? now start) = .ok d →
      (interval : Int) ∣ d.dayNumber - start.dayNumber ∧
        (d ≠ start → ∃ e, start ≤ e ∧ e.addDays? interval = some d ∧ e < now.date) := by
  refine ⟨?_, fun d => ?_, ?_, fun d hd => ?_⟩
  · exact Date.endsWith_firstInSeries? (fun _ _ => Date.lt_of_addDays? hpos) now.date start
  · rw [withinCalendar_eq_ok_iff, daily_eq_some_iff hpos]
  · rw [withinCalendar_eq_error_iff, and_iff_left rfl, (daily_isEarliest hpos now start).eq_none_iff]
    constructor
    · exact fun hnone k d hk => not_le.1 fun hle => hnone d ⟨⟨k, hk⟩, hle⟩
    · rintro hbefore d ⟨⟨k, hk⟩, hle⟩
      exact absurd hle (not_le.2 (hbefore k d hk))
  · have hsome := withinCalendar_eq_ok_iff.1 hd
    obtain ⟨k, hk, -⟩ := (daily_eq_some_iff hpos).1 hsome
    refine ⟨⟨k, ?_⟩, daily_step_before hpos hsome⟩
    rw [Date.dayNumber_addDays? hk]
    push_cast
    ring

/-- Two steps lead over the 29 February, and the greatest interval of 32 bits leads out of the calendar at once. -/
theorem daily_first_multiple_over_leapDay :
    let start : Date := ⟨2024, 1, 31, by decide, by decide, by decide, by decide, by decide, by decide⟩
    let today : Date := ⟨2024, 2, 16, by decide, by decide, by decide, by decide, by decide, by decide⟩
    let next : Date := ⟨2024, 3, 1, by decide, by decide, by decide, by decide, by decide, by decide⟩
    withinCalendar ((daily 15).nextAfter? (.midnight today) start) = .ok next ∧
      withinCalendar ((daily 4294967295).nextAfter? (.midnight today) start) = .error .outOfCalendar := by
  intro start today next
  obtain ⟨-, hnext, -⟩ := daily_first_multiple (show 0 < 15 by decide) (.midnight today) start
  obtain ⟨-, -, hnone, -⟩ := daily_first_multiple (show 0 < 4294967295 by decide) (.midnight today) start
  have hstart : start.dayNumber = 738916 := by decide
  have htoday : today.dayNumber = 738932 := by decide
  constructor
  · have htwo : start.addDays? (2 * 15) = some next := Date.addDays?_eq_some_iff.2 (by decide)
    refine (hnext next).2 ⟨2, htwo, ⟨next, htwo, by decide⟩, ?_⟩
    rintro j ⟨e, he, hle⟩
    have hday := Date.dayNumber_addDays? he
    have hreached : today.dayNumber ≤ e.dayNumber := Date.le_iff_dayNumber_le.1 hle
    omega
  · refine hnone.2 fun k d hk => Date.lt_iff_dayNumber_lt.2 ?_
    have hday := Date.dayNumber_addDays? hk
    have hend := Date.dayNumber_le_last d
    have hlast : Date.last.dayNumber < 4294967295 := by decide
    show d.dayNumber < today.dayNumber
    omega

end Rule

end Agenda
