import Agenda.Text.Escape

/-!
# Quoted text

JSON writes a text between double quotes, with escapes for some characters.  A numbered escape names half
of a character at a time, so escapes may fail to form a text; such a literal can be passed over, but it
has no value.

* `quoted?` — the content of a literal and what follows it.
* `textOf?` — the text that a content spells.
* `quote` — the literal of a text.
-/

namespace Agenda.Json

open Text

/-- A part of a literal: a character that stands for itself or is named by a letter, or the number of a
numbered escape. -/
inductive Piece
  | plain (c : Char)
  | numbered (n : Nat)
deriving DecidableEq, Repr

/-- The character that a character behind a backslash stands for; JSON lets a slash stand for itself. -/
def escapable? (e : Char) : Option Char := if e = '/' then some '/' else escapeLetter? e

/-- The content of a literal whose opening quote was read, and what follows its closing quote.  Control
characters have to be escaped. -/
def quoted? : List Char → Option (List Piece × List Char)
  | [] => none
  | '"' :: s => some ([], s)
  | '\\' :: 'u' :: a :: b :: c :: d :: s => do
      let n ← hexDigits? [a, b, c, d]
      let (pieces, rest) ← quoted? s
      pure (.numbered n :: pieces, rest)
  | '\\' :: e :: s => do
      let c ← escapable? e
      let (pieces, rest) ← quoted? s
      pure (.plain c :: pieces, rest)
  | c :: s =>
      if c.toNat < 0x20 ∨ c = '\\' then none
      else do
        let (pieces, rest) ← quoted? s
        pure (.plain c :: pieces, rest)

/-- What follows a literal is shorter than the literal with it. -/
theorem quoted?_length {s : List Char} {pieces : List Piece} {rest : List Char}
    (h : quoted? s = some (pieces, rest)) : rest.length < s.length := by
  fun_induction quoted? s generalizing pieces rest with
  | case1 => simp at h
  | case2 s =>
    simp only [Option.some.injEq, Prod.mk.injEq] at h
    obtain ⟨_, rfl⟩ := h
    simp
  | case3 a b c d s ih =>
    simp only [bind, Option.bind_eq_some_iff] at h
    obtain ⟨_, _, ⟨p, r⟩, hr, h⟩ := h
    have := ih hr
    simp only [pure, Option.some.injEq, Prod.mk.injEq] at h
    obtain ⟨_, rfl⟩ := h
    simp only [List.length_cons]
    omega
  | case4 e s _ ih =>
    simp only [bind, Option.bind_eq_some_iff] at h
    obtain ⟨_, _, ⟨p, r⟩, hr, h⟩ := h
    have := ih hr
    simp only [pure, Option.some.injEq, Prod.mk.injEq] at h
    obtain ⟨_, rfl⟩ := h
    simp only [List.length_cons]
    omega
  | case5 => simp at h
  | case6 c s _ _ _ _ ih =>
    simp only [bind, Option.bind_eq_some_iff] at h
    obtain ⟨⟨p, r⟩, hr, h⟩ := h
    have := ih hr
    simp only [pure, Option.some.injEq, Prod.mk.injEq] at h
    obtain ⟨_, rfl⟩ := h
    simp only [List.length_cons]
    omega

/-- The text that a content spells: a numbered escape names a character, or is the first half of one whose
second half follows. -/
def textOf? : List Piece → Option (List Char)
  | [] => some []
  | .plain c :: rest => (textOf? rest).map (c :: ·)
  | .numbered n :: .numbered m :: rest =>
      if 0xD800 ≤ n ∧ n < 0xDC00 then
        if 0xDC00 ≤ m ∧ m < 0xE000 then
          (textOf? rest).map (Char.ofNat (0x10000 + (n - 0xD800) * 0x400 + (m - 0xDC00)) :: ·)
        else none
      else if 0xDC00 ≤ n ∧ n < 0xE000 then none
      else (textOf? (.numbered m :: rest)).map (Char.ofNat n :: ·)
  | .numbered n :: rest =>
      if 0xD800 ≤ n ∧ n < 0xE000 then none else (textOf? rest).map (Char.ofNat n :: ·)

def escapedChar (c : Char) : List Char :=
  if c = '"' then ['\\', '"']
  else if c = '\\' then ['\\', '\\']
  else if c = '\x08' then ['\\', 'b']
  else if c = '\x0c' then ['\\', 'f']
  else if c = '\n' then ['\\', 'n']
  else if c = '\r' then ['\\', 'r']
  else if c = '\t' then ['\\', 't']
  else if c.toNat < 0x20 then ['\\', 'u', '0', '0', hexDigit (c.toNat / 16), hexDigit (c.toNat % 16)]
  else [c]

def quote (s : String) : String := String.ofList ('"' :: s.toList.flatMap escapedChar ++ ['"'])

example : ((quoted? "a\\ud83d\\udca7\" x".toList).bind fun r => textOf? r.1) = some ['a', '💧'] := by
  decide

example : ((quoted? "\\ud83d\"".toList).bind fun r => textOf? r.1) = none := by decide

end Agenda.Json
