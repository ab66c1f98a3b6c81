/-!
# Written numbers

Numbers are written in decimal. Reading accepts an optional sign and one or more ASCII digits, leading
zeros included, and gives up on a value that does not fit its range.

* `digits?_decimal` — reading the digits of a number gives the number back.
* `signed64?` reads the 64-bit integers: a larger value is not a number.
-/

namespace Agenda.Text

def least64 : Int := -9223372036854775808

def greatest64 : Int := 9223372036854775807

def decimal (n : Nat) : List Char := Nat.toDigits 10 n

/-- The decimal digits of a number with a minus sign in front of a negative one. -/
def signedDecimal (n : Int) : List Char :=
  if n < 0 then '-' :: decimal n.natAbs else decimal n.natAbs

/-- The decimal digits of a number, filled up with zeros in front to at least `width` digits. -/
def padded (width n : Nat) : List Char :=
  List.replicate (width - (decimal n).length) '0' ++ decimal n

def digits? (s : List Char) : Option Nat :=
  if !s.isEmpty && s.all Char.isDigit then some (Nat.ofDigitChars 10 s 0) else none

/-- A text without a sign in front. -/
def withoutSign : List Char → List Char
  | '+' :: s => s
  | '-' :: s => s
  | s => s

/-- The value of a text of an optional sign and one or more ASCII digits. -/
def integer? : List Char → Option Int
  | '-' :: s => (digits? s).map (fun n => -(n : Int))
  | '+' :: s => (digits? s).map Int.ofNat
  | s => (digits? s).map Int.ofNat

/-- The value of a written integer that lies between `low` and `high`. -/
def integerWithin? (low high : Int) (s : List Char) : Option Int :=
  (integer? s).filter (fun n => low ≤ n && n ≤ high)

/-- The value of a written integer that fits 64 signed bits. -/
def signed64? (s : List Char) : Option Int := integerWithin? least64 greatest64 s

/-! ### Small facts -/

theorem decimal_ne_nil (n : Nat) : decimal n ≠ [] := Nat.toDigits_ne_nil

/-- Every character of a decimal is a digit. -/
theorem isDigit_of_mem_decimal {n : Nat} {c : Char} (h : c ∈ decimal n) : c.isDigit = true :=
  Nat.isDigit_of_mem_toDigits (by decide) (by decide) h

/-- **Reading back.** The digits of a number are read as that number. -/
theorem digits?_decimal (n : Nat) : digits? (decimal n) = some n := by
  have hall : (decimal n).all Char.isDigit = true :=
    List.all_eq_true.2 fun _ hc => isDigit_of_mem_decimal hc
  have hne : (decimal n).isEmpty = false := List.isEmpty_eq_false_iff.2 (decimal_ne_nil n)
  rw [digits?, hne, hall]
  exact congrArg some Nat.ofDigitChars_ten_toDigits

theorem withoutSign_length_le (s : List Char) : (withoutSign s).length ≤ s.length := by
  unfold withoutSign
  split <;> simp

example : padded 4 25 = "0025".toList := by decide

example : signed64? "+007".toList = some 7 := by decide

example : signed64? "9223372036854775808".toList = none := by decide

end Agenda.Text
