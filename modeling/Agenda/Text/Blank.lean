/-!
# Blank characters

White space is the Unicode property White_Space, no more and no less: the zero-width space, the byte
order mark and the information separators are ordinary characters.

* `trim` removes the blanks at both ends of a text and nothing else.
* `words` are the maximal runs of characters that are not blank, so blanks at the ends or in a row
  leave no trace.
-/

namespace Agenda.Text

/-- The characters of the Unicode property White_Space. -/
def isBlank (c : Char) : Bool :=
  let n := c.toNat
  (0x9 ≤ n && n ≤ 0xD) || n == 0x20 || n == 0x85 || n == 0xA0 || n == 0x1680 ||
    (0x2000 ≤ n && n ≤ 0x200A) || n == 0x2028 || n == 0x2029 || n == 0x202F || n == 0x205F ||
    n == 0x3000

def trimFront (s : List Char) : List Char := s.dropWhile isBlank

def trimBack (s : List Char) : List Char := (s.reverse.dropWhile isBlank).reverse

def trim (s : List Char) : List Char := trimBack (trimFront s)

def trimmed (s : String) : String := String.ofList (trim s.toList)

/-- The maximal runs of characters that are not blank, in order. -/
def words (s : List Char) : List (List Char) := (s.splitOnP isBlank).filter (fun w => !w.isEmpty)

/-! ### Small facts -/

@[simp] theorem trim_nil : trim [] = [] := rfl

@[simp] theorem words_nil : words [] = [] := rfl

example : trim " \u2003d 7\u3000".toList = "d 7".toList := by decide

example : trim "\u200bd 7".toList = "\u200bd 7".toList := by decide

example : words "  m  -1\t6 ".toList = ["m".toList, "-1".toList, "6".toList] := by decide

end Agenda.Text
