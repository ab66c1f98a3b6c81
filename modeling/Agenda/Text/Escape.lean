/-!
# Escapes

Inside quotes a character may be written by a letter or by its number behind a backslash.  Numbers are
written in hexadecimal.

* `hexDigits?` — the value of hexadecimal digits.
* `escapeLetter?` — the characters with a letter of their own.
-/

namespace Agenda.Text

def hexDigit? (c : Char) : Option Nat :=
  if c.isDigit then some (c.toNat - 48)
  else if 'a' ≤ c ∧ c ≤ 'f' then some (c.toNat - 87)
  else if 'A' ≤ c ∧ c ≤ 'F' then some (c.toNat - 55)
  else none

def hexDigits? (s : List Char) : Option Nat :=
  (s.mapM hexDigit?).map fun ds => ds.foldl (fun n d => 16 * n + d) 0

def hexDigit (n : Nat) : Char := if n < 10 then Char.ofNat (48 + n) else Char.ofNat (87 + n)

/-- The character named by a letter, or by itself, behind a backslash. -/
def escapeLetter? : Char → Option Char
  | '"' => some '"'
  | '\\' => some '\\'
  | 'b' => some '\x08'
  | 'f' => some '\x0c'
  | 'n' => some '\n'
  | 'r' => some '\r'
  | 't' => some '\t'
  | _ => none

example : hexDigits? "00e9".toList = some 0xE9 := by decide

end Agenda.Text
