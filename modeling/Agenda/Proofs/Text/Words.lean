import Agenda.Text.Blank
import Mathlib.Data.List.DropRight
import Mathlib.Data.List.TakeWhile

/-!
# Words and blanks

Blanks around a text do not change its words, and trimming takes away nothing else.

* `words_append_cons` — a blank separates words.
* `words_eq_singleton`, `words_word_append` — a text without blanks is a word.
* `words_between_blanks` — blanks at the ends leave the words as they are.
* `exists_blanks_trim` — a text is its trimmed form between blanks.
* `trim_eq_nil_iff` — nothing but blanks is trimmed to nothing.
* `trim_eq_self`, `trim_trim` — what is trimmed once, or has no blanks, stays as it is.
* `words_trim` — trimming does not change the words.
-/

namespace Agenda.Text

def IsBlankText (s : List Char) : Prop := ∀ c ∈ s, isBlank c = true

instance (s : List Char) : Decidable (IsBlankText s) := List.decidableBAll (fun c => isBlank c = true) s

/-- A blank separates the words in front of it from those behind it. -/
theorem words_append_cons (s t : List Char) {c : Char} (h : isBlank c = true) :
    words (s ++ c :: t) = words s ++ words t := by
  rw [words, List.splitOnP_append_cons _ _ h, List.filter_append]
  rfl

/-- A text without blanks is a single word. -/
theorem words_eq_singleton {w : List Char} (hne : w ≠ []) (h : ∀ c ∈ w, isBlank c = false) :
    words w = [w] := by
  rw [words, List.splitOnP_eq_singleton h]
  simp [hne]

theorem words_word_append {w : List Char} (hne : w ≠ []) (h : ∀ c ∈ w, isBlank c = false) (s : List Char) :
    words (w ++ ' ' :: s) = w :: words s := by
  rw [words_append_cons w s (by decide), words_eq_singleton hne h]
  rfl

theorem words_cons_of_isBlank {c : Char} (s : List Char) (h : isBlank c = true) : words (c :: s) = words s :=
  words_append_cons [] s h

/-- Blanks in front of a text leave its words as they are. -/
theorem words_blanks_append {front : List Char} (h : IsBlankText front) (s : List Char) :
    words (front ++ s) = words s := by
  induction front with
  | nil => rfl
  | cons c front ih =>
    rw [List.cons_append, words_cons_of_isBlank _ (h c List.mem_cons_self)]
    exact ih fun d hd => h d (List.mem_cons_of_mem _ hd)

/-- Blanks behind a text leave its words as they are. -/
theorem words_append_blanks (s : List Char) {back : List Char} (h : IsBlankText back) :
    words (s ++ back) = words s := by
  cases back with
  | nil => rw [List.append_nil]
  | cons c back =>
    have hback : words back = [] := by
      rw [← List.append_nil back, words_blanks_append fun d hd => h d (List.mem_cons_of_mem _ hd)]
      rfl
    rw [words_append_cons _ _ (h c List.mem_cons_self), hback, List.append_nil]

/-- **Blanks at the ends leave the words as they are.** -/
theorem words_between_blanks {front back : List Char} (hfront : IsBlankText front)
    (hback : IsBlankText back) (s : List Char) : words (front ++ s ++ back) = words s := by
  rw [words_append_blanks _ hback, words_blanks_append hfront]

/-- **A text is its trimmed form between blanks.** -/
theorem exists_blanks_trim (s : List Char) :
    ∃ front back, IsBlankText front ∧ IsBlankText back ∧ s = front ++ trim s ++ back := by
  refine ⟨s.takeWhile isBlank, ((trimFront s).reverse.takeWhile isBlank).reverse, ?_, ?_, ?_⟩
  · exact List.all_eq_true.1 List.all_takeWhile
  · exact fun c hc => List.all_eq_true.1 List.all_takeWhile c (List.mem_reverse.1 hc)
  · rw [trim, trimBack, List.append_assoc, ← List.reverse_append, List.takeWhile_append_dropWhile,
      List.reverse_reverse]
    exact (List.takeWhile_append_dropWhile).symm

/-- Nothing is left of a text exactly if it is blank. -/
theorem trim_eq_nil_iff {s : List Char} : trim s = [] ↔ IsBlankText s := by
  constructor
  · intro h
    obtain ⟨front, back, hfront, hback, hs⟩ := exists_blanks_trim s
    rw [h, List.append_nil] at hs
    rw [hs]
    intro c hc
    exact (List.mem_append.1 hc).elim (hfront c) (hback c)
  · intro h
    rw [trim, trimFront, List.dropWhile_eq_nil_iff.2 h]
    rfl

theorem trimmed_eq_empty_iff {s : String} : trimmed s = "" ↔ IsBlankText s.toList := by
  rw [trimmed, ← String.toList_inj, String.toList_ofList]
  exact trim_eq_nil_iff

theorem mem_of_mem_trim {s : List Char} {c : Char} (h : c ∈ trim s) : c ∈ s := by
  obtain ⟨front, back, -, -, hs⟩ := exists_blanks_trim s
  rw [hs]
  exact List.mem_append_left back (List.mem_append_right front h)

/-- A text without blanks is left as it is. -/
theorem trim_eq_self {s : List Char} (h : ∀ c ∈ s, isBlank c = false) : trim s = s := by
  have hkeep : ∀ t : List Char, (∀ c ∈ t, isBlank c = false) → t.dropWhile isBlank = t := by
    intro t ht
    refine List.dropWhile_eq_self_iff.2 fun hlength => ?_
    rw [ht _ (List.getElem_mem hlength)]
    exact Bool.false_ne_true
  rw [trim, trimFront, hkeep s h, trimBack, hkeep s.reverse fun c hc => h c (List.mem_reverse.1 hc),
    List.reverse_reverse]

/-- Trimming once is enough. -/
theorem trim_trim (s : List Char) : trim (trim s) = trim s := by
  have hfront : trimFront (trim s) = trim s := by
    -- what is left begins with the character that the blanks in front stop at
    refine List.dropWhile_eq_self_iff.2 fun hlength => ?_
    have hinit : trim s <+: trimFront s := List.rdropWhile_prefix isBlank (trimFront s)
    have hlength' : 0 < (trimFront s).length := hlength.trans_le hinit.length_le
    rw [hinit.getElem hlength]
    exact List.dropWhile_get_zero_not isBlank s hlength'
  rw [trim, hfront]
  exact List.rdropWhile_idempotent isBlank (trimFront s)

/-- Trimming does not change the words. -/
theorem words_trim (s : List Char) : words (trim s) = words s := by
  obtain ⟨front, back, hfront, hback, hs⟩ := exists_blanks_trim s
  rw [← words_between_blanks hfront hback (trim s), ← hs]

end Agenda.Text
