import Agenda.Proofs.Calendar.Years
import Agenda.Rule.Schedule
import Mathlib.Logic.Relation

/-!
# What the two searches find

A search in a series answers the first of its dates that is on or after the bound, and a search through the
later days answers the first of them with the property.  Either answers nothing exactly if there is no such
date in the calendar.

* `Series` — the dates that a step leads to, from a date on.
* `firstInSeries?_isEarliest`, `firstAfter?_isEarliest` — both searches are exact.
* `exists_firstInSeries?` — a series of short steps does not pass the bound by more than a step.
-/

namespace Agenda

namespace Date

/-- The dates reached from a date by repeating a step, the date itself included. -/
def Series (step : Date → Option Date) : Date → Date → Prop :=
  Relation.ReflTransGen fun d e => step d = some e

section Series

variable {step : Date → Option Date} {d e f : Date}

/-- After a step the rest of the series is the series from there. -/
theorem series_iff_of_step (h : step d = some e) : Series step d f ↔ f = d ∨ Series step e f := by
  constructor
  · intro hf
    rcases Relation.ReflTransGen.cases_head hf with rfl | ⟨e', hstep, hrest⟩
    · exact .inl rfl
    · rw [h, Option.some.injEq] at hstep
      subst hstep
      exact .inr hrest
  · rintro (rfl | hf)
    · exact .refl
    · exact .head h hf

/-- A series ends with a date that has no step. -/
theorem series_iff_of_none (h : step d = none) : Series step d f ↔ f = d := by
  constructor
  · intro hf
    rcases Relation.ReflTransGen.cases_head hf with rfl | ⟨e', hstep, -⟩
    · rfl
    · rw [h] at hstep
      exact absurd hstep (by simp)
  · rintro rfl
    exact .refl

/-- A series of steps forward never goes back. -/
theorem Series.le (hstep : ∀ d e, step d = some e → d < e) (h : Series step d e) : d ≤ e := by
  induction h with
  | refl => exact le_rfl
  | tail _ hlast ih => exact ih.trans (hstep _ _ hlast).le

/-- The later dates of a series are those of the series from any of its dates. -/
theorem Series.iff_of_le (hstep : ∀ d e, step d = some e → d < e) (h : Series step d e) (hef : e ≤ f) :
    Series step e f ↔ Series step d f := by
  constructor
  · exact fun hf => h.trans hf
  · intro hf
    have hunique : Relator.RightUnique fun d e => step d = some e := by
      intro d e e' he he'
      exact Option.some.inj (he.symm.trans he')
    rcases Relation.ReflTransGen.total_of_right_unique hunique h hf with hforth | hback
    · exact hforth
    · rw [le_antisymm hef (Series.le hstep hback)]
      exact .refl

/-- **The search in a series is exact.** -/
theorem firstInSeries?_isEarliest (hstep : ∀ d e, step d = some e → d < e) (d bound : Date) :
    IsEarliest (d.firstInSeries? step bound) fun e => Series step d e ∧ bound ≤ e := by
  induction d using firstInSeries?.induct step bound with
  | case1 d hle =>
    rw [firstInSeries?, if_pos hle]
    exact ⟨⟨.refl, hle⟩, fun e he => he.1.le hstep⟩
  | case2 d hlt hnone =>
    rw [firstInSeries?, if_neg hlt, hnone]
    rintro e ⟨hseries, he⟩
    rw [series_iff_of_none hnone] at hseries
    exact hlt (hseries ▸ he)
  | case3 d hlt e hsome hde ih =>
    rw [firstInSeries?, if_neg hlt, hsome]
    simp only [hde, if_true]
    refine ih.congr fun f => and_congr_left fun hf => ?_
    rw [series_iff_of_step hsome]
    exact ⟨.inr, fun h => h.resolve_left fun heq => hlt (heq ▸ hf)⟩
  | case4 d hlt e hsome hde => exact absurd (hstep d e hsome) hde

/-- Where every date before the bound has a step of at most `length` days, the series reaches the bound and
goes less than a step beyond it. -/
theorem exists_firstInSeries? (step : Date → Option Date) (bound : Date) (length : Int)
    (hstep : ∀ d, d < bound → ∃ e, step d = some e ∧ d < e ∧ e.dayNumber ≤ d.dayNumber + length)
    (d : Date) :
    ∃ e, d.firstInSeries? step bound = some e ∧ bound ≤ e ∧
      (e = d ∨ e.dayNumber < bound.dayNumber + length) := by
  induction d using firstInSeries?.induct step bound with
  | case1 d hle =>
    rw [firstInSeries?, if_pos hle]
    exact ⟨d, rfl, hle, .inl rfl⟩
  | case2 d hlt hnone =>
    obtain ⟨e, he, -⟩ := hstep d (not_le.1 hlt)
    rw [hnone] at he
    exact absurd he (by simp)
  | case3 d hlt e hsome hde ih =>
    rw [firstInSeries?, if_neg hlt, hsome]
    simp only [hde, if_true]
    obtain ⟨f, hf, hbound, hcase⟩ := ih
    refine ⟨f, hf, hbound, .inr ?_⟩
    rcases hcase with rfl | hf'
    · -- the answer is one step from the last date before the bound
      obtain ⟨e', he', -, hlength⟩ := hstep d (not_le.1 hlt)
      rw [hsome, Option.some.injEq] at he'
      subst he'
      have hd := lt_iff_dayNumber_lt.1 (not_le.1 hlt)
      omega
    · exact hf'
  | case4 d hlt e hsome hde =>
    obtain ⟨e', he', hlt', -⟩ := hstep d (not_le.1 hlt)
    rw [hsome, Option.some.injEq] at he'
    exact absurd (he' ▸ hlt') hde

end Series

/-! ### Searching the later days -/

theorem firstAfter?_of_next? {d e : Date} {p : Date → Bool} (h : d.next? = some e) :
    d.firstAfter? p = if p e then some e else e.firstAfter? p := by
  rw [firstAfter?.eq_def]
  split
  · rename_i hnone
    rw [h] at hnone
    exact absurd hnone (by simp)
  · rename_i e' he
    rw [h, Option.some.injEq] at he
    subst he
    rfl

theorem firstAfter?_last (p : Date → Bool) : last.firstAfter? p = none := by
  rw [firstAfter?.eq_def]
  split
  · rfl
  · rename_i e he
    rw [next?_eq_none_iff.2 rfl] at he
    exact absurd he (by simp)

/-- **The search through the later days is exact.** -/
theorem firstAfter?_isEarliest (d : Date) (p : Date → Bool) :
    IsEarliest (d.firstAfter? p) fun e => d < e ∧ p e = true := by
  induction d using firstAfter?.induct p with
  | case1 d hnone =>
    rw [next?_eq_none_iff.1 hnone, firstAfter?_last]
    exact fun e he => absurd (le_last e) (not_le.2 he.1)
  | case2 d e hnext hp =>
    rw [firstAfter?_of_next? hnext, if_pos hp]
    exact ⟨⟨lt_of_next? hnext, hp⟩, fun f hf => le_of_next?_of_lt hnext hf.1⟩
  | case3 d e hnext hp ih =>
    rw [firstAfter?_of_next? hnext, if_neg hp]
    refine ih.congr fun f => and_congr_left fun hf => ?_
    -- the next day itself does not have the property
    rw [← next?_le_iff hnext]
    exact ⟨le_of_lt, fun hle => lt_of_le_of_ne hle fun heq => hp (heq ▸ hf)⟩

end Date

end Agenda
