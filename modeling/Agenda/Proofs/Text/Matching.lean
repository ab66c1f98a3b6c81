import Agenda.Proofs.Text.Pattern
import Mathlib.Data.List.Forall2

/-!
# What it means to match

The matcher tries one way after the other to cut a text along a pattern.  Here the meaning of patterns is
written down without the search, as one rule for each way in which a pattern begins, and the case of letters
without a function that makes them small.  The matcher finds exactly what the rules describe, and so the
pattern made from a text finds it wherever it stands.

* `toLower_eq_iff` — the characters that are equal up to the case of letters.
* `Like.Describes`, `Like.accepts_iff_describes` — the rules, and that the search follows them.
* `StandsIn`, `Like.pattern_finds_text` — where a text stands in another one, and what its pattern finds.
-/

namespace Agenda.Text

/-! ### The case of letters -/

/-- The first character is the small form of the second one, a capital letter of the ASCII alphabet. -/
def IsSmallFormOf (a b : Char) : Prop := ('A' ≤ b ∧ b ≤ 'Z') ∧ a.toNat = b.toNat + 32

/-- The same character, or the two forms of one letter of the ASCII alphabet. -/
def SameLetter (a b : Char) : Prop := a = b ∨ IsSmallFormOf a b ∨ IsSmallFormOf b a

/-- The number of the small form of a capital letter is greater by 32. -/
theorem toNat_toLower (c : Char) :
    c.toLower.toNat = if 65 ≤ c.toNat ∧ c.toNat ≤ 90 then c.toNat + 32 else c.toNat := by
  by_cases h : 65 ≤ c.toNat ∧ c.toNat ≤ 90
  · have hsmall : c.toLower.val = c.val + 32 := congrArg Char.val (dif_pos h)
    have hsum : c.toNat + 32 < 2 ^ 32 := by omega
    rw [if_pos h, Char.toNat, hsmall, UInt32.toNat_add]
    exact Nat.mod_eq_of_lt hsum
  · have hsame : c.toLower = c := dif_neg h
    rw [if_neg h, hsame]

theorem isSmallFormOf_iff {a b : Char} :
    IsSmallFormOf a b ↔ (65 ≤ b.toNat ∧ b.toNat ≤ 90) ∧ a.toNat = b.toNat + 32 := Iff.rfl

/-- Two characters have one small form exactly if they are the same one or the two forms of one letter. -/
theorem toLower_eq_iff {a b : Char} : a.toLower = b.toLower ↔ SameLetter a b := by
  rw [SameLetter, isSmallFormOf_iff, isSmallFormOf_iff, ← Char.toNat_inj, ← Char.toNat_inj, toNat_toLower,
    toNat_toLower]
  split <;> split <;> omega

/-! ### Where a text stands -/

/-- A text stands in another one: character by character it is some part of that one, where only the letters
of the ASCII alphabet may be of another case. -/
def StandsIn (t s : List Char) : Prop :=
  ∃ before part after, s = before ++ part ++ after ∧ List.Forall₂ SameLetter t part

theorem folded_eq_iff {t part : List Char} : folded part = folded t ↔ List.Forall₂ SameLetter t part := by
  rw [eq_comm, folded, folded, ← List.forall₂_eq_eq_eq, List.forall₂_map_left_iff, List.forall₂_map_right_iff]
  simp only [toLower_eq_iff]

theorem standsIn_iff {t s : List Char} : StandsIn t s ↔ OccursIn t s := by
  rw [occursIn_iff]
  constructor
  · intro h
    obtain ⟨before, part, after, rfl, hsame⟩ := h
    exact ⟨part, ⟨before, after, rfl⟩, folded_eq_iff.2 hsame⟩
  · intro h
    obtain ⟨part, ⟨before, after, rfl⟩, hfolded⟩ := h
    exact ⟨before, part, after, rfl, folded_eq_iff.1 hfolded⟩

instance (t s : List Char) : Decidable (StandsIn t s) := decidable_of_iff _ standsIn_iff.symm

namespace Like

/-! ### The rules of patterns -/

/-- What a pattern describes, by the way it begins.  No rule is for a pattern of the escape character alone. -/
inductive Describes : List Char → List Char → Prop where
  /-- The empty pattern describes the empty text. -/
  | nil : Describes [] []
  /-- A percent sign stands for any characters. -/
  | anyText {pattern back : List Char} (front : List Char) :
      Describes pattern back → Describes (anyText :: pattern) (front ++ back)
  /-- An underscore stands for any one character. -/
  | anyChar {pattern s : List Char} (c : Char) : Describes pattern s → Describes (anyChar :: pattern) (c :: s)
  /-- A character behind the escape character stands for itself. -/
  | escaped {q c : Char} {pattern s : List Char} :
      SameLetter q c → Describes pattern s → Describes (escape :: q :: pattern) (c :: s)
  /-- So does a character without a meaning of its own. -/
  | plain {p c : Char} {pattern s : List Char} : ¬ (p = Like.anyText ∨ p = Like.anyChar ∨ p = escape) →
      SameLetter p c → Describes pattern s → Describes (p :: pattern) (c :: s)

/-- A percent sign may stand for one character more. -/
theorem Describes.cons_anyText {pattern s : List Char} (h : Describes (Like.anyText :: pattern) s) (c : Char) :
    Describes (Like.anyText :: pattern) (c :: s) := by
  cases h with
  | anyText front h => exact .anyText (c :: front) h
  | plain hplain => exact absurd (.inl rfl) hplain

theorem accepts_anyChar_cons (pattern s : List Char) (c : Char) :
    accepts (anyChar :: pattern) (c :: s) = accepts pattern s := by
  rw [accepts.eq_def]
  exact (if_neg (by decide)).trans (if_pos rfl)

/-- The matcher finds nothing that the rules do not describe. -/
theorem describes_of_accepts {pattern s : List Char} (h : accepts pattern s = true) : Describes pattern s := by
  fun_induction accepts pattern s with
  | case1 s =>
    rw [List.isEmpty_iff] at h
    exact h ▸ .nil
  | case2 p pattern ih =>
    -- a pattern that describes the empty text begins with a percent sign
    rw [Bool.and_eq_true, beq_iff_eq] at h
    obtain ⟨rfl, hrest⟩ := h
    exact .anyText [] (ih hrest)
  | case3 pattern c s hhere hlater =>
    rcases Bool.or_eq_true _ _ ▸ h with h | h
    · exact .anyText [] (hhere h)
    · exact (hlater h).cons_anyText c
  | case4 pattern c s _ ih => exact .anyChar c (ih h)
  | case5 => exact absurd h Bool.false_ne_true
  | case6 c s q pattern _ _ ih =>
    rw [Bool.and_eq_true, sameFolded_iff, toLower_eq_iff] at h
    exact .escaped h.1 (ih h.2)
  | case7 p pattern c s hanyText hanyChar hescape ih =>
    rw [Bool.and_eq_true, sameFolded_iff, toLower_eq_iff] at h
    exact .plain (not_or.2 ⟨hanyText, not_or.2 ⟨hanyChar, hescape⟩⟩) h.1 (ih h.2)

/-- The matcher finds all that the rules describe. -/
theorem accepts_of_describes {pattern s : List Char} (h : Describes pattern s) : accepts pattern s = true := by
  induction h with
  | nil => rw [accepts, List.isEmpty_nil]
  | anyText front _ ih => exact (accepts_anyText _ _).2 ⟨_, List.suffix_append front _, ih⟩
  | anyChar c _ ih => rw [accepts_anyChar_cons, ih]
  | escaped hsame _ ih =>
    rw [accepts_escape_cons, ih, Bool.and_true]
    exact sameFolded_iff.2 (toLower_eq_iff.2 hsame)
  | plain hplain hsame _ ih =>
    rw [accepts_plain_cons hplain, ih, Bool.and_true]
    exact sameFolded_iff.2 (toLower_eq_iff.2 hsame)

/-- **The matcher decides what the rules describe.** -/
theorem accepts_iff_describes {pattern s : List Char} : accepts pattern s = true ↔ Describes pattern s :=
  ⟨describes_of_accepts, accepts_of_describes⟩

/-! ### The pattern of a text -/

/-- **The pattern made from a text describes exactly the texts in which it stands.**  The matcher decides what
patterns describe, so a database finds a text wherever it stands in another one, both as they are read: up to
their first NUL character, and with one reading for the characters that are none. -/
theorem pattern_finds_text :
    (∀ t s, Describes (containing t) s ↔ StandsIn t s) ∧
      (∀ pattern s, accepts pattern s = true ↔ Describes pattern s) ∧
      (∀ t s, IsNulFree t → IsNulFree s →
        (fits (containing t) s = true ↔ StandsIn (t.map asRead) (s.map asRead))) ∧
      ∀ t s, IsPlain t → IsPlain s → (fits (containing t) s = true ↔ StandsIn t s) := by
  refine ⟨fun t s => ?_, fun _ _ => accepts_iff_describes, fun t s ht hs => ?_, fun t s ht hs => ?_⟩
  · rw [← accepts_iff_describes, accepts_containing, standsIn_iff]
  · rw [fits_containing ht hs, standsIn_iff]
  · rw [fits_containing_of_isPlain ht hs, standsIn_iff]

/-- Signs that have a meaning in patterns stand for themselves, at the end of a text too, and a beginning that
leads nowhere does not hide the text behind it.  Letters outside the ASCII alphabet keep their case. -/
theorem pattern_finds_signs_and_letters :
    Describes (containing "aab%\\".toList) "xaAaB%\\".toList ∧ ¬ Describes (containing "a_b".toList) "axb".toList ∧
      ¬ Describes (containing "É".toList) "é".toList ∧ accepts (containing "50%".toList) "50 km".toList = false ∧
      fits (containing "\ufffe".toList) "\uffff".toList = true ∧
      fits (containing "c:\\_x".toList) "C:\\_X.TXT".toList = true := by
  obtain ⟨hmeaning, hmatcher, hread, hplain⟩ := pattern_finds_text
  refine ⟨(hmeaning _ _).2 (by decide), mt (hmeaning _ _).1 (by decide), mt (hmeaning _ _).1 (by decide), ?_,
    (hread _ _ (by decide) (by decide)).2 (by decide), (hplain _ _ (by decide) (by decide)).2 (by decide)⟩
  rw [← Bool.not_eq_true, hmatcher, hmeaning]
  decide

end Like

end Agenda.Text
