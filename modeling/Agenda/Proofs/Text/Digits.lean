import Agenda.Text.Number
import Mathlib.Algebra.Group.Nat.Defs

/-!
# Digits of a fixed width

A text of digits is determined by its length and its value: it is the value filled up with zeros in front.
Texts of digits of one length are ordered as their values are.

* `digits?_padded`, `length_padded` — what filling up keeps and gives.
* `eq_padded_of_digits?` — each text of digits is the padded form of its value.
* `digits?_append`, `lt_iff_of_digits?` — the value of digits in a row, and the order of digits.
-/

namespace Agenda.Text

theorem digits?_eq_some_iff {s : List Char} {n : Nat} :
    digits? s = some n ↔ (s ≠ [] ∧ s.all Char.isDigit = true) ∧ Nat.ofDigitChars 10 s 0 = n := by
  simp only [digits?, Option.ite_none_right_eq_some, Option.some.injEq, Bool.and_eq_true,
    Bool.not_eq_true', List.isEmpty_eq_false_iff]

/-- Numbers with the same digits are equal. -/
theorem decimal_injective : Function.Injective decimal := by
  intro m n h
  have hread := congrArg digits? h
  rw [digits?_decimal, digits?_decimal] at hread
  exact Option.some.inj hread

/-- Zeros in front do not change the value. -/
theorem digits?_padded (width n : Nat) : digits? (padded width n) = some n := by
  rw [digits?_eq_some_iff, padded]
  refine ⟨⟨by simp [decimal_ne_nil], ?_⟩, ?_⟩
  · rw [List.all_append, Bool.and_eq_true]
    constructor
    · rw [List.all_eq_true]
      intro c hc
      rw [List.eq_of_mem_replicate hc]
      rfl
    · exact List.all_eq_true.2 fun _ hc => isDigit_of_mem_decimal hc
  · rw [Nat.ofDigitChars_append, Nat.ofDigitChars_replicate_zero, Nat.mul_zero]
    exact Nat.ofDigitChars_ten_toDigits

theorem isDigit_of_mem_padded {width n : Nat} {c : Char} (h : c ∈ padded width n) : c.isDigit = true :=
  List.all_eq_true.1 (digits?_eq_some_iff.1 (digits?_padded width n)).1.2 c h

/-- A number that fits the width has exactly that many digits when it is filled up. -/
theorem length_padded {width n : Nat} (hwidth : 0 < width) (h : n < 10 ^ width) :
    (padded width n).length = width := by
  have hle : (decimal n).length ≤ width := (Nat.length_toDigits_le_iff (by decide) hwidth).2 h
  rw [padded, List.length_append, List.length_replicate]
  omega

theorem le_length_padded (width n : Nat) : width ≤ (padded width n).length := by
  rw [padded, List.length_append, List.length_replicate]
  omega

/-- The value of a digit in front of other digits. -/
theorem ofDigitChars_cons_zero (c : Char) (s : List Char) :
    Nat.ofDigitChars 10 (c :: s) 0 = 10 ^ s.length * (c.toNat - '0'.toNat) + Nat.ofDigitChars 10 s 0 := by
  rw [Nat.ofDigitChars_cons, Nat.mul_zero, Nat.zero_add, Nat.ofDigitChars_eq_ofDigitChars_zero]

theorem toNat_of_isDigit {c : Char} (h : c.isDigit = true) :
    '0'.toNat ≤ c.toNat ∧ c.toNat - '0'.toNat < 10 := by
  simp only [Char.isDigit, Bool.and_eq_true, decide_eq_true_eq] at h
  have h₁ : '0'.toNat ≤ c.toNat := h.1
  have h₂ : c.toNat ≤ '9'.toNat := h.2
  have h₃ : '0'.toNat = 48 := rfl
  have h₄ : '9'.toNat = 57 := rfl
  omega

/-- Digits of a length stay below the power of ten of that length. -/
theorem ofDigitChars_lt {s : List Char} (h : s.all Char.isDigit = true) :
    Nat.ofDigitChars 10 s 0 < 10 ^ s.length := by
  induction s with
  | nil => simp
  | cons c s ih =>
    rw [List.all_cons, Bool.and_eq_true] at h
    have hrest := ih h.2
    have hdigit := (toNat_of_isDigit h.1).2
    have hle := Nat.mul_le_mul_left (10 ^ s.length) (Nat.le_of_lt_succ hdigit)
    rw [ofDigitChars_cons_zero, List.length_cons, Nat.pow_succ]
    omega

/-- Numbers with a quotient and a remainder are compared by the quotient first. -/
theorem mul_add_lt_mul_add_iff {b q r q' r' : Nat} (hr : r < b) (hr' : r' < b) :
    b * q + r < b * q' + r' ↔ q < q' ∨ q = q' ∧ r < r' := by
  rcases Nat.lt_trichotomy q q' with hlt | rfl | hgt
  · have hle := Nat.mul_le_mul_left b hlt
    rw [Nat.succ_eq_add_one, Nat.mul_add_one] at hle
    omega
  · omega
  · have hle := Nat.mul_le_mul_left b hgt
    rw [Nat.succ_eq_add_one, Nat.mul_add_one] at hle
    omega

/-- Digits of one length are ordered as their values are: the first digit is the quotient, the rest is the
remainder. -/
theorem lt_iff_ofDigitChars_lt {s t : List Char} (hs : s.all Char.isDigit = true)
    (ht : t.all Char.isDigit = true) (hlength : s.length = t.length) :
    s < t ↔ Nat.ofDigitChars 10 s 0 < Nat.ofDigitChars 10 t 0 := by
  induction s generalizing t with
  | nil =>
    rw [List.length_eq_zero_iff.1 hlength.symm]
    simp
  | cons c s ih =>
    cases t with
    | nil => exact absurd hlength (by simp)
    | cons c' t =>
      rw [List.all_cons, Bool.and_eq_true] at hs ht
      have hlength' : s.length = t.length := by simpa using hlength
      have hlt := ofDigitChars_lt hs.2
      have hlt' := ofDigitChars_lt ht.2
      rw [← hlength'] at hlt'
      have hc := (toNat_of_isDigit hs.1).1
      have hc' := (toNat_of_isDigit ht.1).1
      rw [List.cons_lt_cons_iff, ih hs.2 ht.2 hlength', ofDigitChars_cons_zero, ofDigitChars_cons_zero,
        ← hlength', mul_add_lt_mul_add_iff hlt hlt']
      have hfirst : c < c' ↔ c.toNat - '0'.toNat < c'.toNat - '0'.toNat := by
        rw [show c < c' ↔ c.toNat < c'.toNat from Iff.rfl]
        omega
      have hsame : c = c' ↔ c.toNat - '0'.toNat = c'.toNat - '0'.toNat := by
        rw [← Char.toNat_inj]
        omega
      rw [hfirst, hsame]

/-- **Digits of one length and one value are the same digits.** -/
theorem eq_of_ofDigitChars_eq {s t : List Char} (hs : s.all Char.isDigit = true)
    (ht : t.all Char.isDigit = true) (hlength : s.length = t.length)
    (hvalue : Nat.ofDigitChars 10 s 0 = Nat.ofDigitChars 10 t 0) : s = t := by
  have hst : ¬ s < t := by
    rw [lt_iff_ofDigitChars_lt hs ht hlength, hvalue]
    exact Nat.lt_irrefl _
  have hts : ¬ t < s := by
    rw [lt_iff_ofDigitChars_lt ht hs hlength.symm, hvalue]
    exact Nat.lt_irrefl _
  exact List.le_antisymm (List.not_lt.1 hts) (List.not_lt.1 hst)

/-- Each text of digits is the padded form of its value. -/
theorem eq_padded_of_digits? {s : List Char} {n : Nat} (h : digits? s = some n) :
    s = padded s.length n ∧ n < 10 ^ s.length := by
  obtain ⟨⟨hne, hall⟩, hvalue⟩ := digits?_eq_some_iff.1 h
  have hlt := ofDigitChars_lt hall
  rw [hvalue] at hlt
  obtain ⟨⟨-, hall'⟩, hvalue'⟩ := digits?_eq_some_iff.1 (digits?_padded s.length n)
  refine ⟨eq_of_ofDigitChars_eq hall hall' ?_ (hvalue.trans hvalue'.symm), hlt⟩
  exact (length_padded (List.length_pos_iff.2 hne) hlt).symm

theorem digits?_append {s t : List Char} {m n : Nat} (hs : digits? s = some m) (ht : digits? t = some n) :
    digits? (s ++ t) = some (10 ^ t.length * m + n) := by
  obtain ⟨⟨hne, hall⟩, rfl⟩ := digits?_eq_some_iff.1 hs
  obtain ⟨⟨-, hall'⟩, rfl⟩ := digits?_eq_some_iff.1 ht
  refine digits?_eq_some_iff.2 ⟨⟨List.append_ne_nil_of_left_ne_nil hne t, ?_⟩, ?_⟩
  · rw [List.all_append, hall, hall']
    rfl
  · rw [Nat.ofDigitChars_append, Nat.ofDigitChars_eq_ofDigitChars_zero]

theorem lt_iff_of_digits? {s t : List Char} {m n : Nat} (hs : digits? s = some m) (ht : digits? t = some n)
    (hlength : s.length = t.length) : s < t ↔ m < n := by
  obtain ⟨⟨-, hall⟩, rfl⟩ := digits?_eq_some_iff.1 hs
  obtain ⟨⟨-, hall'⟩, rfl⟩ := digits?_eq_some_iff.1 ht
  exact lt_iff_ofDigitChars_lt hall hall' hlength

end Agenda.Text
