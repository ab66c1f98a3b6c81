import Agenda.Proofs.Outcome
import Agenda.Rule.Parser

/-!
# What reading a rule gives

Every rule that a text names is well formed: its numbers are in range, its sets are not empty, and a monthly
rule does select a day of some month.

* `RuleField.readList_spec` — a list that is read has at least one number, and all of them are in range.
* `Rule.wellFormed_of_parse` — a rule that is read is well formed.
* `Rule.check_eq_ok_iff`, `Rule.check_eq_error_iff` — the check passes the empty text and what can be read,
  and retells the error of the reader.
-/

namespace Agenda

open Outcome

namespace RuleField

variable {field : RuleField} {inRange : Int → Bool}

theorem inRange_of_readItem {item : List Char} {n : Int} (h : field.readItem inRange item = .ok n) :
    inRange n = true := by
  obtain ⟨m, -, hm⟩ := bind_eq_ok_iff.1 h
  split at hm
  · rw [pure_eq_ok_iff] at hm
    subst hm
    assumption
  · exact absurd hm throw_ne_ok

/-- A list that is read has at least one number, and all of them are in range. -/
theorem readList_spec {word : List Char} {numbers : List Int}
    (h : field.readList inRange word = .ok numbers) :
    numbers ≠ [] ∧ ∀ n ∈ numbers, inRange n = true := by
  constructor
  · rintro rfl
    have hitems := mapM_eq_ok_iff.1 h
    rw [List.forall₂_nil_right_iff] at hitems
    exact List.splitOnP_ne_nil _ _ hitems
  · intro n hn
    obtain ⟨item, -, hitem⟩ := exists_mem_of_mapM h hn
    exact inRange_of_readItem hitem

end RuleField

/-- Whether a selection is satisfied by some day, told without a search. -/
theorem MonthDays.reaches_iff {days : MonthDays} {months : NumberSet} :
    days.reaches months = true ↔ days.last = true ∨ days.secondToLast = true ∨
      ∃ day ∈ days.days, ∃ month ∈ months, day ≤ longestMonth month := by
  simp only [reaches, Bool.or_eq_true, List.any_eq_true, decide_eq_true_eq, or_assoc]
  rfl

theorem NumberSet.elements_ofList_ne_nil {numbers : List Nat} (h : numbers ≠ []) :
    (NumberSet.ofList numbers).elements ≠ [] := by
  obtain ⟨n, hn⟩ := List.exists_mem_of_ne_nil _ h
  exact List.ne_nil_of_mem (NumberSet.mem_ofList.2 hn)

namespace Rule

theorem wellFormed_of_dailyOf {parameters : List (List Char)} {rule : Rule}
    (h : dailyOf parameters = .ok rule) : rule.WellFormed := by
  match parameters, h with
  | [word], h =>
    obtain ⟨n, -, hn⟩ := bind_eq_ok_iff.1 h
    split at hn
    · rename_i hrange
      rw [pure_eq_ok_iff] at hn
      subst hn
      have hle : n.toNat ≤ greatestInterval := by omega
      exact ⟨by omega, hle⟩
    · exact absurd hn throw_ne_ok

theorem wellFormed_of_weeklyOf {parameters : List (List Char)} {rule : Rule}
    (h : weeklyOf parameters = .ok rule) : rule.WellFormed := by
  match parameters, h with
  | list :: _, h =>
    obtain ⟨numbers, hread, hn⟩ := bind_eq_ok_iff.1 h
    rw [pure_eq_ok_iff] at hn
    subst hn
    obtain ⟨hne, hrange⟩ := RuleField.readList_spec (mapError_eq_ok_iff.1 hread)
    refine ⟨NumberSet.elements_ofList_ne_nil (by simpa using hne), ?_⟩
    intro n hn
    obtain ⟨m, hm, rfl⟩ := List.mem_map.1 (NumberSet.mem_ofList.1 hn)
    have := hrange m hm
    simp only [Bool.and_eq_true, decide_eq_true_eq] at this
    omega

/-- The months of a monthly rule, named or not, are months of a year. -/
theorem months_of_monthsOf {parameters : List (List Char)} {months : NumberSet}
    (h : monthsOf parameters = .ok months) :
    months.elements ≠ [] ∧ ∀ n ∈ months, 1 ≤ n ∧ n ≤ 12 := by
  match parameters, h with
  | [], h =>
    rw [monthsOf, pure_eq_ok_iff] at h
    subst h
    decide
  | list :: _, h =>
    obtain ⟨numbers, hread, hn⟩ := bind_eq_ok_iff.1 h
    rw [pure_eq_ok_iff] at hn
    subst hn
    obtain ⟨hne, hrange⟩ := RuleField.readList_spec hread
    refine ⟨NumberSet.elements_ofList_ne_nil (by simpa using hne), ?_⟩
    intro n hn
    obtain ⟨m, hm, rfl⟩ := List.mem_map.1 (NumberSet.mem_ofList.1 hn)
    have := hrange m hm
    simp only [Bool.and_eq_true, decide_eq_true_eq] at this
    omega

theorem wellFormed_of_monthlyOf {parameters : List (List Char)} {rule : Rule}
    (h : monthlyOf parameters = .ok rule) : rule.WellFormed := by
  match parameters, h with
  | list :: rest, h =>
    obtain ⟨selectors, hread, h⟩ := bind_eq_ok_iff.1 (mapError_eq_ok_iff.1 h)
    obtain ⟨months, hmonths, h⟩ := bind_eq_ok_iff.1 h
    obtain ⟨⟨⟩, hreach, h⟩ := bind_eq_ok_iff.1 h
    rw [pure_eq_ok_iff] at h
    subst h
    have hrange := (RuleField.readList_spec hread).2
    refine ⟨?_, months_of_monthsOf hmonths, ?_⟩
    · intro n hn
      obtain ⟨m, hm, rfl⟩ := List.mem_map.1 (NumberSet.mem_ofList.1 hn)
      obtain ⟨hm, hpos⟩ := List.mem_filter.1 hm
      have := hrange m hm
      simp only [Bool.or_eq_true, Bool.and_eq_true, decide_eq_true_eq, beq_iff_eq] at this hpos
      omega
    · rw [MonthDays.checkReach] at hreach
      split at hreach
      · rename_i hreaches
        exact MonthDays.reaches_iff.1 hreaches
      · exact absurd hreach throw_ne_ok

/-- **A rule that is read is well formed.** -/
theorem wellFormed_of_parse {text : String} {rule : Rule} (h : parse text = .ok rule) : rule.WellFormed := by
  unfold parse ofWords at h
  split at h
  · exact absurd h throw_ne_ok
  · split at h
    · exact wellFormed_of_dailyOf h
    · split at h
      · exact wellFormed_of_weeklyOf h
      · split at h
        · exact wellFormed_of_monthlyOf h
        · split at h
          · unfold yearlyOf at h
            split at h
            · rw [pure_eq_ok_iff] at h
              subst h
              trivial
            · exact absurd h throw_ne_ok
          · exact absurd h throw_ne_ok

/-! ### The check -/

theorem parse_empty : parse "" = .error .empty := rfl

theorem check_eq_ok_iff {text : String} :
    check text = .ok () ↔ text = "" ∨ ∃ rule, parse text = .ok rule := by
  rw [check]
  by_cases h : text = ""
  · simp [h]
  · rw [if_neg h]
    cases parse text <;> simp [h]

theorem check_eq_error_iff {text : String} {rejection : Rejection} :
    check text = .error rejection ↔
      text ≠ "" ∧ ∃ e, parse text = .error e ∧ Rejection.ofRuleError e = rejection := by
  rw [check]
  by_cases h : text = ""
  · simp [h]
  · rw [if_neg h]
    cases parse text <;> simp [h]

end Rule

end Agenda
