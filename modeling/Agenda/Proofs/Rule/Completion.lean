import Agenda.Proofs.Rule.Reach
import Agenda.Proofs.Rule.Reading

/-!
# The date after a completion

A task that is done moves to the earliest date of its rule that is after the day of the completion and after
the date on which it was due.  A rule goes on from any of its dates as it does from the start, so a completion
that comes late leads to the same date as all the completions that were left out.

* `Rule.afterCompletion?_earliest_later` — the date after a completion, for every rule that can be read.
* `Rule.exists_afterCompletion?` — there is one, unless the calendar ends soon.
* `Rule.occursOn_iff_of_occursOn` — a rule goes on from each of its dates in the same way.
* `Rule.exists_timelyDates` — a late completion as the last one of a sequence of timely ones.
-/

namespace Agenda.Rule

/-- **The date after a completion is the earliest date of the rule after both days**, whichever of them is the
later one; the calendar is left exactly if it has no such date. -/
theorem afterCompletion?_earliest_later {text : String} {rule : Rule} (h : parse text = .ok rule)
    (today current : Date) :
    (∀ d, withinCalendar (rule.afterCompletion? today current) = .ok d ↔
      (rule.OccursOn current d ∧ today < d ∧ current < d) ∧
        ∀ e, rule.OccursOn current e → today < e → current < e → d ≤ e) ∧
    (withinCalendar (rule.afterCompletion? today current) = .error .outOfCalendar ↔
      ∀ e, rule.OccursOn current e → ¬ (today < e ∧ current < e)) := by
  have hearliest := afterCompletion?_isEarliest (wellFormed_of_parse h).movesOn today current
  simp only [max_lt_iff] at hearliest
  constructor
  · intro d
    rw [withinCalendar_eq_ok_iff, hearliest.eq_some_iff]
    exact and_congr_right fun _ => ⟨fun hle e ho ht hc => hle e ⟨ho, ht, hc⟩,
      fun hle e he => hle e he.1 he.2.1 he.2.2⟩
  · rw [withinCalendar_eq_error_iff, hearliest.eq_none_iff]
    exact ⟨fun hnone e ho hlater => hnone.1 e ⟨ho, hlater⟩, fun hnone => ⟨fun e he => hnone e he.1 he.2, rfl⟩⟩

theorem afterCompletion?_on_last_day : parse " d 007" = .ok (.daily 7) ∧
    withinCalendar ((daily 7).afterCompletion? .last .last) = .error .outOfCalendar := by
  have hread : parse " d 007" = .ok (.daily 7) := by decide
  refine ⟨hread, (afterCompletion?_earliest_later hread .last .last).2.2 ?_⟩
  exact fun e _ hlater => absurd (Date.le_last e) (not_le.2 hlater.1)

/-- A well-formed rule has a date after a completion, unless the calendar ends soon. -/
theorem exists_afterCompletion? {rule : Rule} (h : rule.WellFormed) (today current : Date)
    (hroom : (max today current).dayNumber + longestPause < Date.last.dayNumber) :
    ∃ d, rule.afterCompletion? today current = some d := by
  rw [afterCompletion?, completionReference?]
  rw [Date.latest_eq_max]
  have hpos : 0 ≤ longestPause := by decide
  have hcurrent := Date.le_iff_dayNumber_le.1 (le_max_right today current)
  split
  · obtain ⟨reference, href⟩ := Date.exists_dayNumber_eq (d := max today current)
      (n := (max today current).dayNumber + 1) (by omega) (by omega)
    rw [Date.next?_eq_some_iff.2 href]
    refine exists_nextAfter? h (.midnight reference) current ?_
    show (max current reference).dayNumber + _ ≤ _
    rw [max_eq_right (Date.le_iff_dayNumber_le.2 (by omega)), href]
    omega
  · refine exists_nextAfter? h (.midnight (max today current)) current ?_
    show (max current (max today current)).dayNumber + _ ≤ _
    rw [max_eq_right (le_max_right today current)]
    omega

/-! ### Completions in time -/

variable {rule : Rule} {today start current d next : Date}

/-- **A rule goes on from each of its dates as it does from the start.** -/
theorem occursOn_iff_of_occursOn (hmoves : rule.MovesOn) (h : rule.OccursOn start current)
    (hle : current ≤ d) : rule.OccursOn current d ↔ rule.OccursOn start d := by
  cases rule with
  | daily interval =>
    simp only [OccursOn, ← series_addDays?_iff] at h ⊢
    exact h.iff_of_le (fun _ _ => Date.lt_of_addDays? hmoves) hle
  | yearly => exact Date.Series.iff_of_le (fun _ _ => Date.lt_of_addYears?_one) h hle
  | weekly weekdays => exact Iff.rfl
  | monthly days months => exact Iff.rfl

/-- The first date after a completion in time is no later than the date after a late one, and a completion
that is late even for the first one goes on from there. -/
theorem afterCompletion?_self_of_late (hmoves : rule.MovesOn) (hle : current ≤ today)
    (h : rule.afterCompletion? today current = some next) :
    ∃ first, rule.afterCompletion? current current = some first ∧ current < first ∧
      (today < first ∧ first = next ∨
        first ≤ today ∧ rule.afterCompletion? today first = some next) := by
  have hlate := afterCompletion?_isEarliest hmoves today current
  have htimely := afterCompletion?_isEarliest hmoves current current
  rw [max_eq_left hle] at hlate
  rw [max_self] at htimely
  obtain ⟨⟨hnext, hafter⟩, hleast⟩ := hlate.eq_some_iff.1 h
  obtain ⟨first, hfirst, ⟨hoccurs, hlt⟩, hfirst_le⟩ := htimely.exists_le ⟨hnext, lt_of_le_of_lt hle hafter⟩
  refine ⟨first, hfirst, hlt, ?_⟩
  by_cases hearly : today < first
  · exact .inl ⟨hearly, le_antisymm hfirst_le (hleast first ⟨hoccurs, hearly⟩)⟩
  · have hle' := not_lt.1 hearly
    have hrest := afterCompletion?_isEarliest hmoves today first
    rw [max_eq_left hle'] at hrest
    refine .inr ⟨hle', (hrest.congr fun d => ?_).unique (h ▸ hlate)⟩
    -- beyond the first date the rule has the same dates from either day
    exact and_congr_left fun hd => occursOn_iff_of_occursOn hmoves hoccurs (hle'.trans hd.le)

/-- **A late completion leads to the date that timely ones lead to**: the last of a sequence of dates, each
the one after a completion on the date before it. -/
theorem exists_timelyDates (hmoves : rule.MovesOn) (hle : current ≤ today)
    (h : rule.afterCompletion? today current = some next) :
    ∃ (n : Nat) (day : Nat → Date), day 0 = current ∧ day n = next ∧ today < next ∧
      ∀ k < n, current ≤ day k ∧ day k ≤ today ∧ day k < day (k + 1) ∧
        rule.afterCompletion? (day k) (day k) = some (day (k + 1)) := by
  -- the induction is on the number of days between the due date and today
  induction hgap : (today.dayNumber - current.dayNumber).toNat using Nat.strong_induction_on
    generalizing current with
  | _ gap ih =>
    obtain ⟨first, hfirst, hlt, hcase⟩ := afterCompletion?_self_of_late hmoves hle h
    rcases hcase with ⟨hearly, rfl⟩ | ⟨hle', hrest⟩
    · refine ⟨1, fun k => if k = 0 then current else first, rfl, rfl, hearly, fun k hk => ?_⟩
      obtain rfl : k = 0 := by omega
      exact ⟨le_rfl, hle, hlt, hfirst⟩
    · have hnumber := Date.lt_iff_dayNumber_lt.1 hlt
      have hnumber' := Date.le_iff_dayNumber_le.1 hle'
      obtain ⟨n, day, hzero, hlast, hafter, hstep⟩ := ih _ (by omega) hle' hrest rfl
      refine ⟨n + 1, fun k => k.casesOn current day, rfl, hlast, hafter, fun k hk => ?_⟩
      cases k with
      | zero =>
        show current ≤ current ∧ current ≤ today ∧ current < day 0 ∧ _ = some (day 0)
        rw [hzero]
        exact ⟨le_rfl, hle, hlt, hfirst⟩
      | succ k =>
        obtain ⟨hge, hstep⟩ := hstep k (by omega)
        exact ⟨hlt.le.trans hge, hstep⟩

/-- A completion on the due date or before it leads to the same date. -/
theorem afterCompletion?_of_le (h : today ≤ current) :
    rule.afterCompletion? today current = rule.afterCompletion? current current := by
  unfold afterCompletion? completionReference?
  rw [Date.latest_eq_max, Date.latest_eq_max, max_eq_right h, max_self]

end Agenda.Rule
