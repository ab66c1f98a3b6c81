import Agenda.Text.Like
import Mathlib.Data.List.Infix
import Mathlib.Data.List.TakeWhile

/-!
# What a pattern describes

The pattern of the texts that contain a text describes exactly these texts, whatever the text is made of: the
characters with a meaning in patterns stand behind the escape character and mean themselves there.

* `Like.accepts_anyText`, `Like.accepts_escaped` — what the parts of the pattern describe.
* `Like.accepts_containing` — the whole pattern describes the texts in which the text occurs.
* `Like.fits_containing`, `Like.fits_containing_of_isPlain` — the same for texts as a database reads them.
-/

namespace Agenda.Text

def IsNulFree (s : List Char) : Prop := ∀ c ∈ s, c ≠ '\x00'

/-- A text that is read as it is: without NUL characters and without the two that are no characters. -/
def IsPlain (s : List Char) : Prop := ∀ c ∈ s, c ≠ '\x00' ∧ c ≠ '\ufffe' ∧ c ≠ '\uffff'

instance (s : List Char) : Decidable (IsNulFree s) := List.decidableBAll (fun c => c ≠ '\x00') s

instance (s : List Char) : Decidable (IsPlain s) :=
  List.decidableBAll (fun c => c ≠ '\x00' ∧ c ≠ '\ufffe' ∧ c ≠ '\uffff') s

instance (t s : List Char) : Decidable (OccursIn t s) := inferInstanceAs (Decidable (folded t <:+: folded s))

theorem sameFolded_iff {a b : Char} : sameFolded a b = true ↔ a.toLower = b.toLower := beq_iff_eq

/-- One text occurs in another one if some part of that one is the text up to the case of letters. -/
theorem occursIn_iff {t s : List Char} : OccursIn t s ↔ ∃ part, part <:+: s ∧ folded part = folded t := by
  rw [OccursIn, folded, folded, List.infix_map_iff]
  exact exists_congr fun part => and_congr_right fun _ => eq_comm

namespace Like

/-! ### The parts of a pattern -/

theorem accepts_anyText_cons (pattern s : List Char) (c : Char) :
    accepts (anyText :: pattern) (c :: s) = (accepts pattern (c :: s) || accepts (anyText :: pattern) s) := by
  rw [accepts.eq_def]
  exact if_pos rfl

theorem accepts_escape_cons (q c : Char) (pattern s : List Char) :
    accepts (escape :: q :: pattern) (c :: s) = (sameFolded q c && accepts pattern s) := by
  rw [accepts, if_neg (by decide), if_neg (by decide), if_pos rfl]

theorem accepts_plain_cons {p : Char} (hp : ¬ (p = anyText ∨ p = anyChar ∨ p = escape)) (pattern s : List Char)
    (c : Char) : accepts (p :: pattern) (c :: s) = (sameFolded p c && accepts pattern s) := by
  rw [not_or, not_or] at hp
  rw [accepts.eq_def]
  show (if p = anyText then _ else if p = anyChar then _ else if p = escape then _ else _) = _
  rw [if_neg hp.1, if_neg hp.2.1, if_neg hp.2.2]

/-- A percent sign passes over any characters. -/
theorem accepts_anyText (pattern s : List Char) :
    accepts (anyText :: pattern) s = true ↔ ∃ back, back <:+ s ∧ accepts pattern back = true := by
  induction s with
  | nil =>
    rw [accepts, beq_self_eq_true, Bool.true_and]
    simp only [List.suffix_nil, exists_eq_left]
  | cons c s ih =>
    rw [accepts_anyText_cons, Bool.or_eq_true, ih]
    simp only [List.suffix_cons_iff, or_and_right, exists_or, exists_eq_left]

/-- Only a percent sign describes the empty text. -/
theorem accepts_nil {p : Char} (hp : p ≠ anyText) (pattern : List Char) : accepts (p :: pattern) [] = false := by
  rw [accepts, beq_false_of_ne hp, Bool.false_and]

/-- An escaped character describes itself. -/
theorem accepts_escaped_cons (c : Char) (t pattern s : List Char) :
    accepts (escaped (c :: t) ++ pattern) s = true ↔
      ∃ d rest, s = d :: rest ∧ c.toLower = d.toLower ∧ accepts (escaped t ++ pattern) rest = true := by
  rw [escaped]
  split
  · -- the character has a meaning of its own and stands behind the escape character
    cases s with
    | nil => simp [accepts_nil (show escape ≠ anyText by decide)]
    | cons d s => simp [accepts_escape_cons, sameFolded_iff]
  · rename_i hplain
    cases s with
    | nil => simp [accepts_nil (fun h => hplain (.inl h))]
    | cons d s => simp [accepts_plain_cons hplain, sameFolded_iff]

/-- An escaped text describes itself up to the case of letters. -/
theorem accepts_escaped (t pattern s : List Char) :
    accepts (escaped t ++ pattern) s = true ↔
      ∃ front back, s = front ++ back ∧ folded front = folded t ∧ accepts pattern back = true := by
  induction t generalizing s with
  | nil => simp [escaped, folded]
  | cons c t ih =>
    rw [accepts_escaped_cons]
    constructor
    · intro h
      obtain ⟨d, rest, rfl, hd, hrest⟩ := h
      obtain ⟨front, back, rfl, hfront, hback⟩ := (ih rest).1 hrest
      exact ⟨d :: front, back, rfl, congrArg₂ List.cons hd.symm hfront, hback⟩
    · intro h
      obtain ⟨front, back, rfl, hfront, hback⟩ := h
      obtain ⟨d, front, rfl, hd, hrest⟩ := List.map_eq_cons_iff.1 hfront
      exact ⟨d, front ++ back, rfl, hd.symm, (ih _).2 ⟨front, back, rfl, hrest, hback⟩⟩

/-! ### The whole pattern -/

/-- **The pattern of the texts that contain a text describes exactly the texts in which it occurs.** -/
theorem accepts_containing (t s : List Char) : accepts (containing t) s = true ↔ OccursIn t s := by
  have hrest : ∀ back, accepts [anyText] back = true := fun back =>
    (accepts_anyText [] back).2 ⟨[], List.nil_suffix, by rw [accepts]; rfl⟩
  show accepts (anyText :: (escaped t ++ [anyText])) s = true ↔ _
  rw [accepts_anyText, occursIn_iff]
  constructor
  · intro h
    obtain ⟨_, ⟨before, rfl⟩, hpart⟩ := h
    obtain ⟨part, after, rfl, hfolded, -⟩ := (accepts_escaped t _ _).1 hpart
    exact ⟨part, ⟨before, after, List.append_assoc ..⟩, hfolded⟩
  · intro h
    obtain ⟨part, ⟨before, after, rfl⟩, hfolded⟩ := h
    refine ⟨part ++ after, ⟨before, (List.append_assoc ..).symm⟩, ?_⟩
    exact (accepts_escaped t _ _).2 ⟨part, after, rfl, hfolded, hrest after⟩

/-! ### Texts as they are read -/

theorem upToNul_eq_self {s : List Char} (h : IsNulFree s) : upToNul s = s := by
  rw [upToNul, List.takeWhile_eq_self_iff]
  intro c hc
  exact bne_iff_ne.2 (h c hc)

theorem mem_escaped {c : Char} {t : List Char} (h : c ∈ escaped t) : c = escape ∨ c ∈ t := by
  induction t with
  | nil => exact .inr h
  | cons d t ih =>
    rw [escaped] at h
    split at h
    · simp only [List.mem_cons] at h ⊢
      tauto
    · simp only [List.mem_cons] at h ⊢
      tauto

theorem isNulFree_containing {t : List Char} (h : IsNulFree t) : IsNulFree (containing t) := by
  intro c hc
  rw [containing, List.mem_append, List.mem_cons, List.mem_singleton] at hc
  rcases hc with (rfl | hc) | rfl
  · decide
  · rcases mem_escaped hc with rfl | hc
    · decide
    · exact h c hc
  · decide

/-- Reading changes neither the characters with a meaning of their own nor others into them. -/
theorem asRead_eq_iff {c special : Char} (h : special = anyText ∨ special = anyChar ∨ special = escape) :
    asRead c = special ↔ c = special := by
  rw [asRead]
  split
  · rename_i hc
    rcases h with rfl | rfl | rfl <;> rcases hc with rfl | rfl <;> decide
  · rfl

theorem map_asRead_escaped (t : List Char) : (escaped t).map asRead = escaped (t.map asRead) := by
  induction t with
  | nil => rfl
  | cons c t ih =>
    have hsame : (asRead c = anyText ∨ asRead c = anyChar ∨ asRead c = escape) ↔
        (c = anyText ∨ c = anyChar ∨ c = escape) :=
      or_congr (asRead_eq_iff (.inl rfl)) (or_congr (asRead_eq_iff (.inr (.inl rfl)))
        (asRead_eq_iff (.inr (.inr rfl))))
    rw [List.map_cons, escaped, escaped]
    by_cases hc : c = anyText ∨ c = anyChar ∨ c = escape
    · rw [if_pos hc, if_pos (hsame.2 hc), List.map_cons, List.map_cons, ih]
      rfl
    · rw [if_neg hc, if_neg (fun h => hc (hsame.1 h)), List.map_cons, ih]

theorem map_asRead_containing (t : List Char) : (containing t).map asRead = containing (t.map asRead) := by
  rw [containing, containing, List.map_append, List.map_cons, map_asRead_escaped]
  rfl

/-- A database finds a text where it occurs, both of them as they are read. -/
theorem fits_containing {t s : List Char} (ht : IsNulFree t) (hs : IsNulFree s) :
    fits (containing t) s = true ↔ OccursIn (t.map asRead) (s.map asRead) := by
  rw [fits, upToNul_eq_self (isNulFree_containing ht), upToNul_eq_self hs, map_asRead_containing, accepts_containing]

theorem map_asRead_eq_self {s : List Char} (h : IsPlain s) : s.map asRead = s := by
  refine (List.map_congr_left fun c hc => ?_).trans (List.map_id s)
  obtain ⟨-, hfffe, hffff⟩ := h c hc
  exact if_neg (not_or.2 ⟨hfffe, hffff⟩)

/-- A database finds a plain text exactly where it occurs. -/
theorem fits_containing_of_isPlain {t s : List Char} (ht : IsPlain t) (hs : IsPlain s) :
    fits (containing t) s = true ↔ OccursIn t s := by
  rw [fits_containing (fun c hc => (ht c hc).1) (fun c hc => (hs c hc).1), map_asRead_eq_self ht,
    map_asRead_eq_self hs]

end Like

end Agenda.Text
