import Agenda.Json.Quoted
import Agenda.Text.Number

/-!
# JSON tokens

The brackets, separators and simple values of a JSON text, with the white space between them left out.

* `Scalar` — the values without parts.
* `tokens?` — the tokens of a text.
-/

namespace Agenda.Json

open Text

/-- A value without parts. -/
inductive Scalar
  | null
  | boolean (b : Bool)
  /-- A number written as an integer. -/
  | integer (n : Int)
  /-- A number with a fraction or an exponent, or a negative zero. -/
  | decimal
  /-- A text; none if the escapes of the literal do not form one. -/
  | text (s : Option (List Char))
deriving DecidableEq, Repr

inductive Token
  | openArray
  | closeArray
  | openObject
  | closeObject
  | comma
  | colon
  | scalar (s : Scalar)
deriving DecidableEq, Repr

def isSpace (c : Char) : Bool := c == ' ' || c == '\n' || c == '\r' || c == '\t'

/-- What follows the fraction of a number; none if a point has no digit behind it. -/
def afterFraction? : List Char → Option (Bool × List Char)
  | '.' :: s => if (s.takeWhile Char.isDigit).isEmpty then none else some (true, s.dropWhile Char.isDigit)
  | s => some (false, s)

/-- What follows the exponent of a number; none if it has no digit. -/
def afterExponent? : List Char → Option (Bool × List Char)
  | c :: s =>
      if c = 'e' ∨ c = 'E' then
        if ((withoutSign s).takeWhile Char.isDigit).isEmpty then none
        else some (true, (withoutSign s).dropWhile Char.isDigit)
      else some (false, c :: s)
  | [] => some (false, [])

/-- The digits in front of the fraction of a number, and what follows.  There is no zero in front of other
digits. -/
def wholePart? (s : List Char) : Option (Nat × List Char) :=
  match s.takeWhile Char.isDigit with
  | [] => none
  | '0' :: _ :: _ => none
  | digits => some (Nat.ofDigitChars 10 digits 0, s.dropWhile Char.isDigit)

/-- The number at the beginning of a text without its sign, and what follows. -/
def unsigned? (negative : Bool) (s : List Char) : Option (Scalar × List Char) :=
  match wholePart? s with
  | none => none
  | some (value, s) =>
    match afterFraction? s with
    | none => none
    | some (hasFraction, s) =>
      match afterExponent? s with
      | none => none
      | some (hasExponent, s) =>
        some (if hasFraction || hasExponent || (negative && value == 0) then .decimal
          else .integer (if negative then -(value : Int) else value), s)

/-- The value without parts at the beginning of a text, and what follows. -/
def scalar? : List Char → Option (Scalar × List Char)
  | 'n' :: 'u' :: 'l' :: 'l' :: s => some (.null, s)
  | 't' :: 'r' :: 'u' :: 'e' :: s => some (.boolean true, s)
  | 'f' :: 'a' :: 'l' :: 's' :: 'e' :: s => some (.boolean false, s)
  | '"' :: s => (quoted? s).map fun r => (.text (textOf? r.1), r.2)
  | '-' :: s => unsigned? true s
  | s => unsigned? false s

/-! ### Lengths -/

theorem dropWhile_length_le (p : Char → Bool) (s : List Char) : (s.dropWhile p).length ≤ s.length :=
  (List.dropWhile_suffix p).length_le

theorem afterFraction?_length {s rest : List Char} {b : Bool} (h : afterFraction? s = some (b, rest)) :
    rest.length ≤ s.length := by
  unfold afterFraction? at h
  split at h
  · split at h
    · simp at h
    · simp only [Option.some.injEq, Prod.mk.injEq] at h
      obtain ⟨_, rfl⟩ := h
      rename_i s _ _
      have := dropWhile_length_le Char.isDigit s
      simp only [List.length_cons]
      omega
  · simp only [Option.some.injEq, Prod.mk.injEq] at h
    obtain ⟨_, rfl⟩ := h
    exact Nat.le_refl _

theorem afterExponent?_length {s rest : List Char} {b : Bool} (h : afterExponent? s = some (b, rest)) :
    rest.length ≤ s.length := by
  unfold afterExponent? at h
  split at h
  · rename_i c s
    have h₁ := dropWhile_length_le Char.isDigit (withoutSign s)
    have h₂ := withoutSign_length_le s
    split at h
    · split at h
      · simp at h
      · simp only [Option.some.injEq, Prod.mk.injEq] at h
        obtain ⟨_, rfl⟩ := h
        simp only [List.length_cons]
        omega
    · simp only [Option.some.injEq, Prod.mk.injEq] at h
      obtain ⟨_, rfl⟩ := h
      exact Nat.le_refl _
  · simp only [Option.some.injEq, Prod.mk.injEq] at h
    obtain ⟨_, rfl⟩ := h
    exact Nat.le_refl _

/-- A number has at least one digit. -/
theorem wholePart?_length {s rest : List Char} {n : Nat} (h : wholePart? s = some (n, rest)) :
    rest.length < s.length := by
  unfold wholePart? at h
  split at h
  · simp at h
  · simp at h
  · rename_i hne _
    simp only [Option.some.injEq, Prod.mk.injEq] at h
    obtain ⟨_, rfl⟩ := h
    cases s with
    | nil => exact absurd rfl hne
    | cons c s =>
      have := dropWhile_length_le Char.isDigit s
      by_cases hc : c.isDigit = true
      · rw [List.dropWhile_cons_of_pos hc, List.length_cons]
        omega
      · exact absurd (List.takeWhile_cons_of_neg hc) hne

theorem unsigned?_length {negative : Bool} {s rest : List Char} {v : Scalar}
    (h : unsigned? negative s = some (v, rest)) : rest.length < s.length := by
  unfold unsigned? at h
  split at h
  · simp at h
  · rename_i h₁
    split at h
    · simp at h
    · rename_i h₂
      split at h
      · simp at h
      · rename_i h₃
        simp only [Option.some.injEq, Prod.mk.injEq] at h
        obtain ⟨_, rfl⟩ := h
        have := wholePart?_length h₁
        have := afterFraction?_length h₂
        have := afterExponent?_length h₃
        omega

theorem scalar?_length {s rest : List Char} {v : Scalar} (h : scalar? s = some (v, rest)) :
    rest.length < s.length := by
  unfold scalar? at h
  split at h
  · simp only [Option.some.injEq, Prod.mk.injEq] at h
    obtain ⟨_, rfl⟩ := h
    simp only [List.length_cons]
    omega
  · simp only [Option.some.injEq, Prod.mk.injEq] at h
    obtain ⟨_, rfl⟩ := h
    simp only [List.length_cons]
    omega
  · simp only [Option.some.injEq, Prod.mk.injEq] at h
    obtain ⟨_, rfl⟩ := h
    simp only [List.length_cons]
    omega
  · rename_i s
    obtain ⟨⟨pieces, r⟩, hr, h⟩ := Option.map_eq_some_iff.1 h
    simp only [Prod.mk.injEq] at h
    obtain ⟨_, rfl⟩ := h
    have := quoted?_length hr
    simp only [List.length_cons]
    omega
  · have := unsigned?_length h
    simp only [List.length_cons]
    omega
  · exact unsigned?_length h

/-- The tokens of a text; none if something in it is no token. -/
def tokens? (s : List Char) : Option (List Token) :=
  match s with
  | [] => some []
  | c :: rest =>
      if isSpace c then tokens? rest
      else match c with
        | '[' => (tokens? rest).map (.openArray :: ·)
        | ']' => (tokens? rest).map (.closeArray :: ·)
        | '\x7b' => (tokens? rest).map (.openObject :: ·)
        | '\x7d' => (tokens? rest).map (.closeObject :: ·)
        | ',' => (tokens? rest).map (.comma :: ·)
        | ':' => (tokens? rest).map (.colon :: ·)
        | _ =>
          match _read : scalar? (c :: rest) with
          | none => none
          | some (v, rest) => (tokens? rest).map (.scalar v :: ·)
termination_by s.length
decreasing_by all_goals first | exact scalar?_length ‹_› | (simp only [List.length_cons]; omega)

end Agenda.Json
