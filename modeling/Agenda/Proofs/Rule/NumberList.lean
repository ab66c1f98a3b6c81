import Agenda.Proofs.Rule.Reading
import Agenda.Proofs.Text.Integers
import Agenda.Proofs.Text.Words
import Agenda.Rule.Printer
import Mathlib.Data.Finset.Card
import Mathlib.Data.List.Sort
import Mathlib.Order.Interval.Finset.Nat

/-!
# Lists of numbers in a rule

The numbers of a rule are written with commas between them, which makes a single word, and that word is read
as the same numbers.  A set of numbers and a selection of days are made up again from their lists.

* `RuleField.readList_commaSeparated`, `RuleField.readList_set` — a written list is read back.
* `NumberSet.ext_mem` — sets with the same elements are equal.
* `NumberSet.eq_allMonths` — a set of twelve months is the set of all of them.
* `MonthDays.ofSelectors_selectors` — a selection of days from its selectors.
-/

namespace Agenda

open Outcome Text

/-! ### A written list is a word -/

theorem isBlank_of_mem_commaSeparated {items : List (List Char)}
    (h : ∀ item ∈ items, ∀ c ∈ item, isBlank c = false) : ∀ c ∈ commaSeparated items, isBlank c = false := by
  intro c hc
  induction items with
  | nil => simp [commaSeparated] at hc
  | cons item items ih =>
    cases items with
    | nil =>
      simp only [commaSeparated, List.intercalate_singleton] at hc
      exact h item List.mem_cons_self c hc
    | cons next rest =>
      simp only [commaSeparated, List.intercalate_cons_cons, List.mem_append, List.mem_singleton] at hc
      rcases hc with (hc | rfl) | hc
      · exact h item List.mem_cons_self c hc
      · decide
      · exact ih (fun item hitem => h item (List.mem_cons_of_mem _ hitem)) hc

theorem commaSeparated_ne_nil {items : List (List Char)} (hne : items ≠ []) (h : ∀ item ∈ items, item ≠ []) :
    commaSeparated items ≠ [] := by
  match items, hne with
  | [item], _ =>
    show [','].intercalate [item] ≠ []
    rw [List.intercalate_singleton]
    exact h item List.mem_cons_self
  | item :: next :: rest, _ =>
    show [','].intercalate (item :: next :: rest) ≠ []
    rw [List.intercalate_cons_cons]
    simp

/-- Numbers with commas between them make a word. -/
theorem words_commaSeparated {numbers : List Int} (hne : numbers ≠ []) :
    words (commaSeparated (numbers.map signedDecimal)) = [commaSeparated (numbers.map signedDecimal)] ∧
      ∀ s, words (commaSeparated (numbers.map signedDecimal) ++ ' ' :: s) =
        commaSeparated (numbers.map signedDecimal) :: words s := by
  have hword : commaSeparated (numbers.map signedDecimal) ≠ [] := by
    refine commaSeparated_ne_nil (by simpa using hne) ?_
    intro item hitem
    obtain ⟨n, -, rfl⟩ := List.mem_map.1 hitem
    exact signedDecimal_ne_nil n
  have hblank : ∀ c ∈ commaSeparated (numbers.map signedDecimal), isBlank c = false := by
    refine isBlank_of_mem_commaSeparated ?_
    intro item hitem c hc
    obtain ⟨n, -, rfl⟩ := List.mem_map.1 hitem
    exact isBlank_of_mem_signedDecimal hc
  exact ⟨words_eq_singleton hword hblank, words_word_append hword hblank⟩

/-! ### A written list is read back -/

namespace RuleField

variable {field : RuleField} {inRange : Int → Bool}

theorem readItem_signedDecimal {n : Int} (hlow : least64 ≤ n) (hhigh : n ≤ greatest64)
    (hrange : inRange n = true) : field.readItem inRange (signedDecimal n) = .ok n := by
  rw [readItem, read, signed64?_signedDecimal hlow hhigh]
  exact if_pos hrange

/-- **A written list is read back.** -/
theorem readList_commaSeparated {numbers : List Int} (hne : numbers ≠ [])
    (h : ∀ n ∈ numbers, (least64 ≤ n ∧ n ≤ greatest64) ∧ inRange n = true) :
    field.readList inRange (commaSeparated (numbers.map signedDecimal)) = .ok numbers := by
  have hcomma : ∀ item ∈ numbers.map signedDecimal, ',' ∉ item := by
    intro item hitem hmem
    obtain ⟨n, -, rfl⟩ := List.mem_map.1 hitem
    rcases mem_signedDecimal hmem with hsign | hdigit
    · exact absurd hsign (by decide)
    · exact absurd hdigit (by decide)
  have hsplit := List.splitOn_intercalate ',' hcomma (by simpa using hne)
  rw [readList, commaSeparated, hsplit, mapM_eq_ok_iff, List.forall₂_map_left_iff, List.forall₂_same]
  intro n hn
  obtain ⟨⟨hlow, hhigh⟩, hrange⟩ := h n hn
  exact readItem_signedDecimal hlow hhigh hrange

end RuleField

/-! ### Sets and selections from their lists -/

namespace NumberSet

theorem map_decimal (s : NumberSet) :
    s.elements.map decimal = (s.elements.map Int.ofNat).map signedDecimal := by
  rw [List.map_map]
  exact List.map_congr_left fun n _ => (signedDecimal_natCast n).symm

/-- **Sets with the same elements are equal**, for their elements are listed in increasing order. -/
theorem ext_mem {a b : NumberSet} (h : ∀ n, n ∈ a ↔ n ∈ b) : a = b := by
  cases a with
  | mk elements increasing =>
    have heq : elements = b.elements := increasing.eq_of_mem_iff b.increasing h
    subst heq
    rfl

theorem ofList_elements (s : NumberSet) : ofList s.elements = s := ext_mem fun _ => mem_ofList

theorem ofList_toNat (s : NumberSet) : ofList ((s.elements.map Int.ofNat).map Int.toNat) = s := by
  rw [List.map_map, show Int.toNat ∘ Int.ofNat = id from rfl, List.map_id, ofList_elements]

/-- Only the set of all months has twelve of them. -/
theorem eq_allMonths {months : NumberSet} (hmonths : ∀ n ∈ months, 1 ≤ n ∧ n ≤ 12)
    (hsize : months.size = 12) : months = allMonths := by
  have hnodup : months.elements.Nodup := months.increasing.imp Nat.ne_of_lt
  have hsubset : months.elements.toFinset ⊆ Finset.Icc 1 12 := by
    intro n hn
    exact Finset.mem_Icc.2 (hmonths n (List.mem_toFinset.1 hn))
  have hcard : (Finset.Icc 1 12).card ≤ months.elements.toFinset.card := by
    rw [List.toFinset_card_of_nodup hnodup]
    exact hsize.ge
  have hall := Finset.eq_of_subset_of_card_le hsubset hcard
  refine ext_mem fun n => ?_
  show n ∈ months.elements ↔ n ∈ allMonths
  rw [← List.mem_toFinset, hall, Finset.mem_Icc, allMonths, mem_ofList]
  simp only [List.mem_cons, List.not_mem_nil, or_false]
  omega

end NumberSet

/-- A written set of numbers from 1 to a bound is read back as its numbers. -/
theorem RuleField.readList_set {field : RuleField} {bound : Int} (hbound : bound ≤ greatest64) {s : NumberSet}
    (hne : s.elements ≠ []) (h : ∀ n ∈ s, 1 ≤ n ∧ (n : Int) ≤ bound) :
    field.readList (fun n => 1 ≤ n && n ≤ bound) (commaSeparated (s.elements.map decimal)) =
      .ok (s.elements.map Int.ofNat) := by
  rw [NumberSet.map_decimal]
  refine readList_commaSeparated (by simpa using hne) ?_
  intro n hn
  obtain ⟨m, hm, rfl⟩ := List.mem_map.1 hn
  obtain ⟨hpos, hle⟩ := h m hm
  have hlow : least64 ≤ 0 := by decide
  show (least64 ≤ (m : Int) ∧ (m : Int) ≤ greatest64) ∧
    (decide (1 ≤ (m : Int)) && decide ((m : Int) ≤ bound)) = true
  simp only [Bool.and_eq_true, decide_eq_true_eq]
  omega

namespace MonthDays

theorem mem_selectors {s : MonthDays} {n : Int} :
    n ∈ s.selectors ↔
      (∃ day ∈ s.days, (day : Int) = n) ∨ s.last = true ∧ n = -1 ∨ s.secondToLast = true ∧ n = -2 := by
  cases hlast : s.last <;> cases hsecond : s.secondToLast <;> simp [selectors, hlast, hsecond] <;> rfl

/-- The selectors of a selection of days make up the selection again. -/
theorem ofSelectors_selectors {s : MonthDays} (hdays : ∀ n ∈ s.days, 1 ≤ n) :
    ofSelectors s.selectors = s := by
  have hset : NumberSet.ofList ((s.selectors.filter (0 < ·)).map Int.toNat) = s.days := by
    refine NumberSet.ext_mem fun n => ?_
    simp only [NumberSet.mem_ofList, List.mem_map, List.mem_filter, mem_selectors, decide_eq_true_eq]
    constructor
    · rintro ⟨m, ⟨⟨day, hday, rfl⟩ | ⟨-, rfl⟩ | ⟨-, rfl⟩, hpos⟩, rfl⟩
      · exact hday
      · exact absurd hpos (by decide)
      · exact absurd hpos (by decide)
    · intro hn
      have hpos := hdays n hn
      exact ⟨n, ⟨.inl ⟨n, hn, rfl⟩, by omega⟩, by simp⟩
  -- the two other selectors are negative, so no day is taken for one of them
  have hlast : s.selectors.contains (-1) = s.last := by
    rw [Bool.eq_iff_iff, List.contains_iff_mem, mem_selectors]
    simp
  have hsecond : s.selectors.contains (-2) = s.secondToLast := by
    rw [Bool.eq_iff_iff, List.contains_iff_mem, mem_selectors]
    simp
  rw [ofSelectors, hset, hlast, hsecond]

end MonthDays

end Agenda
