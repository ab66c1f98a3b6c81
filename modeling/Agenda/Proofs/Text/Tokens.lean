import Agenda.Proofs.Text.Integers
import Agenda.Proofs.Text.Words

/-!
# Words and numbers, said without reading them

The words of a text are cut out of it where it has blanks, and a number is an optional sign and digits.  Both are
said here as relations between a text and its parts, and reading is exact for either.

* `Runs`, `runs_iff` — the maximal runs of characters that are not blank are the words.
* `IsNumber`, `isNumber_iff` — the numbers of 64 bits.
-/

namespace Agenda.Text

/-! ### Words -/

/-- The maximal runs of characters that are not blank, in the order of the text. -/
inductive Runs : List Char → List (List Char) → Prop
  /-- A text of blanks has none. -/
  | blank {s : List Char} : IsBlankText s → Runs s []
  /-- Only blanks stand in front of the first run, and the text ends behind it or goes on with a blank. -/
  | run {front word rest : List Char} {ws : List (List Char)} :
      IsBlankText front → word ≠ [] → (∀ c ∈ word, isBlank c = false) →
      (∀ c ∈ rest.head?, isBlank c = true) → Runs rest ws → Runs (front ++ word ++ rest) (word :: ws)

theorem words_of_isBlankText {s : List Char} (h : IsBlankText s) : words s = [] := by
  rw [← List.append_nil s, words_blanks_append h]
  rfl

/-- A word ends where the text ends or goes on with a blank. -/
theorem words_append_of_head? {word rest : List Char} (hne : word ≠ [])
    (hword : ∀ c ∈ word, isBlank c = false) (hrest : ∀ c ∈ rest.head?, isBlank c = true) :
    words (word ++ rest) = word :: words rest := by
  cases rest with
  | nil => rw [List.append_nil, words_eq_singleton hne hword, words_nil]
  | cons c rest =>
    have hc := hrest c rfl
    rw [words_append_cons word rest hc, words_eq_singleton hne hword, words_cons_of_isBlank rest hc]
    rfl

theorem Runs.words_eq {s : List Char} {ws : List (List Char)} (h : Runs s ws) : words s = ws := by
  induction h with
  | blank hblank => exact words_of_isBlankText hblank
  | run hfront hne hword hrest _ ih =>
    rw [List.append_assoc, words_blanks_append hfront, words_append_of_head? hne hword hrest, ih]

/-- A text that is not blank begins with blanks, a run and a rest that goes on with a blank. -/
theorem exists_run {s : List Char} (h : ¬ IsBlankText s) :
    ∃ front word rest, s = front ++ word ++ rest ∧ IsBlankText front ∧ word ≠ [] ∧
      (∀ c ∈ word, isBlank c = false) ∧ ∀ c ∈ rest.head?, isBlank c = true := by
  have htail : s.dropWhile isBlank ≠ [] := fun hnil => h (List.dropWhile_eq_nil_iff.1 hnil)
  obtain ⟨c, tail, hcons⟩ := List.exists_cons_of_ne_nil htail
  have hc : isBlank c = false := by
    have hhead := List.head?_dropWhile_not isBlank s
    rw [hcons] at hhead
    exact hhead
  refine ⟨s.takeWhile isBlank, (c :: tail).takeWhile (fun d => !isBlank d),
    (c :: tail).dropWhile (fun d => !isBlank d), ?_, List.all_eq_true.1 List.all_takeWhile, ?_, ?_, ?_⟩
  · rw [List.append_assoc, List.takeWhile_append_dropWhile, ← hcons, List.takeWhile_append_dropWhile]
  · simp [hc]
  · intro d hd
    simpa using List.all_eq_true.1 List.all_takeWhile d hd
  · intro d hd
    have hnot := List.head?_dropWhile_not (fun d => !isBlank d) (c :: tail)
    rw [Option.mem_def.1 hd] at hnot
    simpa using hnot

/-- Every text is cut into its words. -/
theorem runs_words (s : List Char) : Runs s (words s) := by
  -- the induction is on the length: what follows the first run is shorter
  induction hlength : s.length using Nat.strong_induction_on generalizing s with
  | _ length ih =>
    by_cases hblank : IsBlankText s
    · rw [words_of_isBlankText hblank]
      exact .blank hblank
    · obtain ⟨front, word, rest, rfl, hfront, hne, hword, hrest⟩ := exists_run hblank
      have hpos := List.length_pos_iff.2 hne
      have hshorter : rest.length < length := by
        rw [← hlength, List.length_append, List.length_append]
        omega
      have hruns := Runs.run hfront hne hword hrest (ih _ hshorter rest rfl)
      rw [hruns.words_eq]
      exact hruns

/-- **The maximal runs of a text are its words**, and there is only one way to cut it. -/
theorem runs_iff {s : List Char} {ws : List (List Char)} : Runs s ws ↔ ws = words s := by
  constructor
  · exact fun h => h.words_eq.symm
  · rintro rfl
    exact runs_words s

/-! ### Numbers -/

/-- A word is a number: digits, at least one, with a sign in front of them or none, and a value from `-2 ^ 63`
up to `2 ^ 63 - 1`. -/
def IsNumber (word : List Char) (n : Int) : Prop :=
  (∃ digits : List Char, digits ≠ [] ∧ (∀ c ∈ digits, c.isDigit = true) ∧
    ((word = digits ∨ word = '+' :: digits) ∧ n = (Nat.ofDigitChars 10 digits 0 : Int) ∨
      word = '-' :: digits ∧ n = -(Nat.ofDigitChars 10 digits 0 : Int))) ∧
  -9223372036854775808 ≤ n ∧ n ≤ 9223372036854775807

theorem integer?_eq_some_iff {word : List Char} {n : Int} :
    integer? word = some n ↔ ∃ (digits : List Char) (m : Nat), digits? digits = some m ∧
      ((word = digits ∨ word = '+' :: digits) ∧ n = (m : Int) ∨ word = '-' :: digits ∧ n = -(m : Int)) := by
  constructor
  · intro h
    unfold integer? at h
    split at h
    · rename_i digits
      cases hm : digits? digits with
      | none =>
        rw [hm] at h
        exact absurd h (by simp)
      | some m =>
        rw [hm] at h
        exact ⟨digits, m, hm, .inr ⟨rfl, (Option.some.inj h).symm⟩⟩
    · obtain ⟨m, hm, rfl⟩ := Option.map_eq_some_iff.1 h
      exact ⟨_, m, hm, .inl ⟨.inr rfl, rfl⟩⟩
    · obtain ⟨m, hm, rfl⟩ := Option.map_eq_some_iff.1 h
      exact ⟨_, m, hm, .inl ⟨.inl rfl, rfl⟩⟩
  · rintro ⟨digits, m, hm, ⟨rfl | rfl, rfl⟩ | ⟨rfl, rfl⟩⟩
    · have hdigits := (digits?_eq_some_iff.1 hm).1.2
      rw [integer?_of_isDigit (List.all_eq_true.1 hdigits), hm]
      rfl
    · rw [integer?, hm]
      rfl
    · rw [integer?, hm]
      rfl

/-- **Reading gives the number that a word is.** -/
theorem isNumber_iff {word : List Char} {n : Int} : IsNumber word n ↔ signed64? word = some n := by
  rw [signed64?, integerWithin?, Option.filter_eq_some_iff, integer?_eq_some_iff, Bool.and_eq_true,
    decide_eq_true_iff, decide_eq_true_iff, IsNumber]
  refine and_congr ?_ ?_
  · simp only [digits?_eq_some_iff, List.all_eq_true]
    constructor
    · rintro ⟨digits, hne, hdigits, hword⟩
      exact ⟨digits, _, ⟨⟨hne, hdigits⟩, rfl⟩, hword⟩
    · rintro ⟨digits, m, ⟨⟨hne, hdigits⟩, rfl⟩, hword⟩
      exact ⟨digits, hne, hdigits, hword⟩
  · unfold least64 greatest64
    omega

/-- Digits and signs are neither commas nor blanks. -/
theorem IsNumber.mem {word : List Char} {n : Int} (h : IsNumber word n) {c : Char} (hc : c ∈ word) :
    c = '+' ∨ c = '-' ∨ c.isDigit = true := by
  obtain ⟨⟨digits, -, hdigits, ⟨rfl | rfl, -⟩ | ⟨rfl, -⟩⟩, -⟩ := h
  · exact .inr (.inr (hdigits c hc))
  · exact (List.mem_cons.1 hc).imp_right fun hmem => .inr (hdigits c hmem)
  · exact .inr ((List.mem_cons.1 hc).imp_right fun hmem => hdigits c hmem)

end Agenda.Text
