import Agenda.Text.Escape

/-!
# Quoted texts in settings

Between double quotes a text of a setting may hold every character but control characters; a quote and a
backslash are written by escapes, and every character may be.

* `quotedText?` — the text between double quotes.
-/

namespace Agenda.Settings

open Text

/-- Characters that no text on one line may hold. -/
def isControl (c : Char) : Bool := (c.toNat < 0x20 && c != '\t') || c.toNat == 0x7F

def charOf? (n : Nat) : Option Char :=
  if n < 0xD800 ∨ (0xE000 ≤ n ∧ n < 0x110000) then some (Char.ofNat n) else none

/-- The text between double quotes whose opening quote was read, and what follows the closing one. -/
def quotedText? : List Char → Option (List Char × List Char)
  | [] => none
  | '"' :: s => some ([], s)
  | '\\' :: 'u' :: a :: b :: c :: d :: s => do
      let char ← (hexDigits? [a, b, c, d]).bind charOf?
      (quotedText? s).map fun r => (char :: r.1, r.2)
  | '\\' :: 'U' :: a :: b :: c :: d :: e :: f :: g :: h :: s => do
      let char ← (hexDigits? [a, b, c, d, e, f, g, h]).bind charOf?
      (quotedText? s).map fun r => (char :: r.1, r.2)
  | '\\' :: e :: s => do
      let char ← escapeLetter? e
      (quotedText? s).map fun r => (char :: r.1, r.2)
  | c :: s =>
      if isControl c ∨ c = '\\' then none else (quotedText? s).map fun r => (c :: r.1, r.2)

example : (quotedText? "a\\u002e\\n\" b".toList).map Prod.fst = some "a.\n".toList := by decide

end Agenda.Settings
