import Agenda.Proofs.Text.Digits
import Agenda.Text.Blank

/-!
# Written integers

An integer is written as digits, with a minus sign in front of them if it is negative, and is read back as
long as it fits 64 bits.  No blank and no comma is among the characters.

* `mem_signedDecimal` — the characters of a written integer.
* `signed64?_signedDecimal` — reading back.
-/

namespace Agenda.Text

theorem isBlank_of_isDigit {c : Char} (h : c.isDigit = true) : isBlank c = false := by
  obtain ⟨hle, hlt⟩ := toNat_of_isDigit h
  have hzero : '0'.toNat = 48 := rfl
  -- every range of blanks lies below or above the digits
  simp only [isBlank, Bool.or_eq_false_iff, Bool.and_eq_false_iff, decide_eq_false_iff_not,
    beq_eq_false_iff_ne]
  omega

/-- A written integer holds nothing but digits and a sign. -/
theorem mem_signedDecimal {n : Int} {c : Char} (h : c ∈ signedDecimal n) : c = '-' ∨ c.isDigit = true := by
  unfold signedDecimal at h
  split at h
  · rcases List.mem_cons.1 h with hsign | hdigit
    · exact .inl hsign
    · exact .inr (isDigit_of_mem_decimal hdigit)
  · exact .inr (isDigit_of_mem_decimal h)

theorem isBlank_of_mem_signedDecimal {n : Int} {c : Char} (h : c ∈ signedDecimal n) : isBlank c = false := by
  rcases mem_signedDecimal h with rfl | hdigit
  · decide
  · exact isBlank_of_isDigit hdigit

theorem signedDecimal_ne_nil (n : Int) : signedDecimal n ≠ [] := by
  unfold signedDecimal
  split
  · simp
  · exact decimal_ne_nil _

theorem signedDecimal_natCast (n : Nat) : signedDecimal n = decimal n := by
  rw [signedDecimal, if_neg (by omega), Int.natAbs_natCast]

theorem integer?_of_isDigit {s : List Char} (h : ∀ c ∈ s, c.isDigit = true) :
    integer? s = (digits? s).map Int.ofNat := by
  unfold integer?
  split
  · exact absurd (h '-' List.mem_cons_self) (by decide)
  · exact absurd (h '+' List.mem_cons_self) (by decide)
  · rfl

theorem integer?_signedDecimal (n : Int) : integer? (signedDecimal n) = some n := by
  unfold signedDecimal
  split
  · rename_i hneg
    rw [integer?, digits?_decimal]
    show some (-(n.natAbs : Int)) = some n
    congr 1
    omega
  · rename_i hpos
    rw [integer?_of_isDigit fun _ hc => isDigit_of_mem_decimal hc, digits?_decimal]
    show some (n.natAbs : Int) = some n
    congr 1
    omega

/-- **Reading back.**  An integer of 64 bits is read as it was written. -/
theorem signed64?_signedDecimal {n : Int} (hlow : least64 ≤ n) (hhigh : n ≤ greatest64) :
    signed64? (signedDecimal n) = some n := by
  rw [signed64?, integerWithin?, integer?_signedDecimal]
  simp [hlow, hhigh]

end Agenda.Text
