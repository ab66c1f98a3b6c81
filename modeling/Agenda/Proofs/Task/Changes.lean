import Agenda.Proofs.Task.StoredDates
import Agenda.Proofs.Task.Stopover

/-!
# Changes in a row

Every change brings the date up to date once more.  A date that has been brought up to date does not move
again at the same moment, and neither does one that a completion has moved ahead, so a further change that
names neither the date nor the recurrence only overwrites the other fields: it can be made together with the
change before it.

* `placeDate_placed`, `placeDate_ahead` — dates that stay where they are.
* `TaskChange.LeavesSchedule` — changes that name neither the date nor the recurrence.
* `Table.changes_compose` — two changes as one, and the empty change after a task was stored.
-/

namespace Agenda

open Outcome

/-! ### Dates that stay -/

section Placement

variable {now : Moment} {date recurrence : String} {day : Date}

/-- A date that was brought up to date stays where it is. -/
theorem placeDate_placed (h : placeDate date recurrence now = .ok day.compact) (hyear : day.HasFourDigitYear) :
    placeDate day.compact recurrence now = .ok day.compact := by
  obtain ⟨asked, rule, placed, hasked, hrule, hplaced, htext⟩ := placeDate_eq_ok_iff.1 h
  obtain rfl : placed = day := Date.eq_of_compact_eq hyear htext.symm
  have haskedYear := (Date.ofCompact?_eq_some_iff.1 hasked).1
  obtain ⟨stop, hstop, -, hagain⟩ := placedDay?_from_stop hrule le_rfl haskedYear hyear hplaced
  obtain rfl : placed = stop := Option.some.inj (hplaced.symm.trans hstop)
  have hread := Date.ofCompact?_compact hyear
  refine placeDate_eq_ok_iff.2 ⟨placed, rule, placed, ?_, hrule, hagain, rfl⟩
  rw [requestedDate_of_ofCompact? hread, hread]

/-- A day to come stays where it is, also for a task that repeats. -/
theorem placeDate_ahead {rule : Rule} (hrule : Rule.parse recurrence = .ok rule) (hyear : day.HasFourDigitYear)
    (hahead : now.date < day) : placeDate day.compact recurrence now = .ok day.compact := by
  have hread := Date.ofCompact?_compact hyear
  obtain ⟨next, hnext⟩ := Rule.exists_nextAfter? (Rule.wellFormed_of_parse hrule) now day (by
    rw [max_eq_left hahead.le]
    exact hyear.dayNumber_add_lt.le)
  refine placeDate_eq_ok_iff.2 ⟨day, some rule, day, ?_, recurrenceRule?_eq_ok_some_iff.2 hrule, ?_, rfl⟩
  · rw [requestedDate_of_ofCompact? hread, hread]
  · exact placedDay?_some_eq_some_iff.2 ⟨next, hnext, if_neg (not_le.2 hahead)⟩

end Placement

/-! ### Changes that leave the schedule alone -/

namespace TaskChange

def LeavesSchedule (c : TaskChange) : Prop := c.date = .none ∧ c.recurrence = .none

variable {c : TaskChange}

theorem LeavesSchedule.date_applyTo (h : c.LeavesSchedule) (task : Task) : (c.applyTo task).date = task.date := by
  show c.date.getD task.date = task.date
  rw [h.1]
  rfl

theorem LeavesSchedule.recurrence_applyTo (h : c.LeavesSchedule) (task : Task) :
    (c.applyTo task).recurrence = task.recurrence := by
  show c.recurrence.getD task.recurrence = task.recurrence
  rw [h.2]
  rfl

/-- The date of a row has no part in what a change does to the other fields. -/
theorem applyTo_with_date (c : TaskChange) (task : Task) (date other : String) :
    { c.applyTo { task with date := date } with date := other } = { c.applyTo task with date := other } := rfl

end TaskChange

namespace Table

variable {t u v : Table} {now : Moment} {id : Int} {task old : Task} {day : Date}

/-- A change overwrites fields of a row and brings its date up to date. -/
theorem change_eq_ok_iff_placeDate {c : TaskChange} :
    t.change now id c = .ok (task, u) ↔
      ∃ old date, t.find? id = some old ∧ checkTitle (c.applyTo old).title = .ok () ∧
        Rule.check (c.applyTo old).recurrence = .ok () ∧
        placeDate (c.applyTo old).date (c.applyTo old).recurrence now = .ok date ∧
        task = { c.applyTo old with date := date } ∧ u = t.replace task := by
  rw [change_eq_ok_iff]
  constructor
  · intro h
    obtain ⟨old, prepared, hfound, hprepare, rfl, rfl⟩ := h
    obtain ⟨htitle, hcheck, date, hplace, rfl⟩ := TaskDraft.prepare_eq_ok_iff.1 hprepare
    obtain ⟨-, rfl⟩ := find?_eq_some_iff.1 hfound
    exact ⟨old, date, hfound, htitle, hcheck, hplace, rfl, rfl⟩
  · intro h
    obtain ⟨old, date, hfound, htitle, hcheck, hplace, rfl, rfl⟩ := h
    obtain ⟨-, rfl⟩ := find?_eq_some_iff.1 hfound
    exact ⟨old, _, hfound, TaskDraft.prepare_eq_ok_iff.2 ⟨htitle, hcheck, date, hplace, rfl⟩, rfl, rfl⟩

/-- The empty change leaves a row whose date stays, and the table, as they are. -/
theorem change_none (hfound : t.find? id = some task) (htitle : checkTitle task.title = .ok ())
    (hcheck : Rule.check task.recurrence = .ok ())
    (hplace : placeDate task.date task.recurrence now = .ok task.date) :
    t.change now id .none = .ok (task, t) :=
  change_eq_ok_iff_placeDate.2
    ⟨task, task.date, hfound, htitle, hcheck, hplace, rfl, (replace_self hfound).symm⟩

/-- **A further change of the title or the comment can be made together with the change before it.** -/
theorem change_andThen {first second : TaskChange} {task' : Task} (hsecond : second.LeavesSchedule)
    (hfirst : t.change now id first = .ok (task, u)) (hdate : task.date = day.compact)
    (hyear : day.HasFourDigitYear) (hchange : u.change now id second = .ok (task', v)) :
    t.change now id (first.andThen second) = .ok (task', v) := by
  obtain ⟨old, date, hold, -, -, hplace, rfl, rfl⟩ := change_eq_ok_iff_placeDate.1 hfirst
  obtain rfl : date = day.compact := hdate
  obtain ⟨between, date', hbetween, htitle, hcheck, hplace', rfl, rfl⟩ :=
    change_eq_ok_iff_placeDate.1 hchange
  -- the second change finds the row as the first one has left it, and its date stays
  have hmoved : (t.replace { first.applyTo old with date := day.compact }).find? id = some _ :=
    find?_replace_self hold rfl
  obtain rfl := Option.some.inj (hbetween.symm.trans hmoved)
  rw [hsecond.date_applyTo, hsecond.recurrence_applyTo, placeDate_placed hplace hyear, Except.ok.injEq] at hplace'
  subst hplace'
  have hboth := TaskChange.applyTo_andThen first second old
  refine change_eq_ok_iff_placeDate.2 ⟨old, day.compact, hold, ?_, ?_, ?_, ?_, replace_replace rfl⟩
  · rw [hboth]
    exact htitle
  · rw [hboth]
    exact hcheck
  · rw [hboth, hsecond.date_applyTo, hsecond.recurrence_applyTo]
    exact hplace
  · rw [hboth]
    exact second.applyTo_with_date (first.applyTo old) day.compact day.compact

/-- The empty change after a task was added. -/
theorem change_none_of_add {draft : TaskDraft} (h : t.add now draft = .ok (task, u))
    (hdate : task.date = day.compact) (hyear : day.HasFourDigitYear) :
    u.change now task.id .none = .ok (task, u) := by
  obtain ⟨prepared, hprepare, hinsert⟩ := add_eq_ok_iff.1 h
  obtain ⟨-, -, hrows⟩ := find?_of_insertNew? hinsert
  obtain ⟨-, rfl, -, -⟩ := insertNew?_eq_some_iff.1 hinsert
  obtain ⟨htitle, hcheck, date, hplace, rfl⟩ := TaskDraft.prepare_eq_ok_iff.1 hprepare
  obtain rfl : date = day.compact := hdate
  refine change_none ?_ htitle hcheck (placeDate_placed hplace hyear)
  rw [hrows]
  exact Function.update_self ..

/-- The empty change after a repeating task was completed. -/
theorem change_none_of_complete {previous : String} (hfound : t.find? id = some old)
    (htitle : checkTitle old.title = .ok ()) (h : t.complete now id = .ok (.rescheduled task previous, u))
    (hdate : task.date = day.compact) (hyear : day.HasFourDigitYear) :
    u.change now id .none = .ok (task, u) := by
  obtain ⟨row, hrow, ⟨-, hremoved, -⟩ | ⟨rule, date, hrule, hnext, hmoved, rfl⟩⟩ := complete_eq_ok_iff.1 h
  · cases hremoved
  · obtain rfl : old = row := Option.some.inj (hfound.symm.trans hrow)
    cases hmoved
    obtain rfl : date = day.compact := hdate
    obtain ⟨next, -, hahead, htext⟩ := Task.exists_dayAfterCompletion? hrule hnext
    obtain rfl : next = day := Date.eq_of_compact_eq hyear htext.symm
    have hparse := recurrenceRule?_eq_ok_some_iff.1 hrule
    have hcheck : Rule.check old.recurrence = .ok () := Rule.check_eq_ok_iff.2 (.inr ⟨rule, hparse⟩)
    exact change_none (find?_replace_self hfound rfl) htitle hcheck (placeDate_ahead hparse hyear hahead)

/-- **Changes at one moment compose**, in every table and as long as the new date can be written with four
digits for the year.  A change and a further one that leaves the schedule alone come to the same as the single
change made of both.  After a task was added, or was completed and has moved on, the empty change succeeds and
leaves the row and the table as they are. -/
theorem changes_compose (t : Table) (now : Moment) :
    (∀ id (first second : TaskChange) task task' u v (day : Date), second.date = .none →
      second.recurrence = .none → t.change now id first = .ok (task, u) → task.date = day.compact →
      day.HasFourDigitYear → u.change now id second = .ok (task', v) →
      t.change now id (first.andThen second) = .ok (task', v)) ∧
    (∀ draft task u (day : Date), t.add now draft = .ok (task, u) → task.date = day.compact →
      day.HasFourDigitYear → u.change now task.id .none = .ok (task, u)) ∧
    ∀ id old task previous u (day : Date), t.find? id = some old → checkTitle old.title = .ok () →
      t.complete now id = .ok (.rescheduled task previous, u) → task.date = day.compact →
      day.HasFourDigitYear → u.change now id .none = .ok (task, u) := by
  refine ⟨?_, ?_, ?_⟩
  · intro id first second task task' u v day hdate hrecurrence hfirst htext hyear hsecond
    exact change_andThen ⟨hdate, hrecurrence⟩ hfirst htext hyear hsecond
  · intro draft task u day hadd htext hyear
    exact change_none_of_add hadd htext hyear
  · intro id old task previous u day hfound htitle hcomplete htext hyear
    exact change_none_of_complete hfound htitle hcomplete htext hyear

/-- A birthday on a leap day, in a year without one: its date and its comment can be given at once, and
neither the new task nor the one that is done moves again. -/
theorem changes_compose_leapDay :
    let now : Moment := .midnight ((Date.of? 2025 3 10).get (by decide))
    let day : Date := (Date.of? 2026 3 1).get (by decide)
    let nextDay : Date := (Date.of? 2026 3 10).get (by decide)
    let t : Table := ⟨[⟨7, "20250310", "Birthday", "", "y"⟩], 7, by decide, by decide, by decide⟩
    let dated : TaskChange := ⟨none, some "20240229", none, none⟩
    let noted : TaskChange := ⟨none, none, some "cake", none⟩
    (∃ task u task' v, t.change now 7 dated = .ok (task, u) ∧ task.date = day.compact ∧
        u.change now 7 noted = .ok (task', v) ∧ t.change now 7 (dated.andThen noted) = .ok (task', v)) ∧
      (∃ task u, t.add now ⟨"Birthday", "20240229", "cake", "y"⟩ = .ok (task, u) ∧
        task.date = day.compact ∧ u.change now task.id .none = .ok (task, u)) ∧
      ∃ task u, t.complete now 7 = .ok (.rescheduled task "20250310", u) ∧ task.date = nextDay.compact ∧
        u.change now 7 .none = .ok (task, u) := by
  intro now day nextDay t dated noted
  obtain ⟨hcompose, hadded, hcompleted⟩ := changes_compose t now
  refine ⟨?_, ?_, ?_⟩
  · have hdated : (t.change now 7 dated).map Prod.fst = .ok ⟨7, day.compact, "Birthday", "", "y"⟩ := by
      decide +kernel
    have hboth : ((t.change now 7 dated >>= fun r => r.2.change now 7 noted).map Prod.fst) =
        .ok ⟨7, day.compact, "Birthday", "cake", "y"⟩ := by
      decide +kernel
    obtain ⟨⟨_, u⟩, hfirst, rfl⟩ := map_eq_ok_iff.1 hdated
    rw [hfirst] at hboth
    obtain ⟨⟨_, v⟩, hsecond, rfl⟩ := map_eq_ok_iff.1 hboth
    exact ⟨_, u, _, v, hfirst, rfl, hsecond,
      hcompose 7 dated noted _ _ u v day rfl rfl hfirst rfl (by decide) hsecond⟩
  · have hdraft : (t.add now ⟨"Birthday", "20240229", "cake", "y"⟩).map Prod.fst =
        .ok ⟨8, day.compact, "Birthday", "cake", "y"⟩ := by
      decide +kernel
    obtain ⟨⟨_, u⟩, hadd, rfl⟩ := map_eq_ok_iff.1 hdraft
    exact ⟨_, u, hadd, rfl, hadded _ _ u day hadd rfl (by decide)⟩
  · have hdone : (t.complete now 7).map Prod.fst =
        .ok (.rescheduled ⟨7, nextDay.compact, "Birthday", "", "y"⟩ "20250310") := by
      decide +kernel
    obtain ⟨⟨_, u⟩, hcomplete, rfl⟩ := map_eq_ok_iff.1 hdone
    exact ⟨_, u, hcomplete, rfl,
      hcompleted 7 ⟨7, "20250310", "Birthday", "", "y"⟩ _ _ u nextDay rfl (by decide) hcomplete rfl (by decide)⟩

end Table

end Agenda
