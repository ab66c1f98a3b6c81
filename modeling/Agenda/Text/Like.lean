/-!
# Patterns

A pattern describes whole texts: a percent sign stands for any characters, an underscore for any one
character, and the escape character makes the character after it stand for itself.  A letter of the ASCII
alphabet stands for its small and its capital form; every other character stands for itself only.

* `Like.accepts` — whether a pattern describes a text.
* `Like.fits` — the same for texts as a database reads them.
* `Like.isTooLong` — whether a pattern is longer than a database allows.
* `Like.containing` — the pattern of the texts that contain a given text.
* `OccursIn` — what that pattern is meant to describe.
-/

namespace Agenda.Text

/-- A text with the capital letters of the ASCII alphabet made small. -/
def folded (s : List Char) : List Char := s.map Char.toLower

/-- One text occurs in another one, up to the case of ASCII letters. -/
def OccursIn (t s : List Char) : Prop := folded t <:+: folded s

/-- Whether two characters are equal up to the case of ASCII letters. -/
def sameFolded (a b : Char) : Bool := a.toLower == b.toLower

namespace Like

/-- The character that stands for any characters. -/
def anyText : Char := '%'

/-- The character that stands for any one character. -/
def anyChar : Char := '_'

def escape : Char := '\\'

/-- Whether a pattern describes a text.  An escape character at the end of a pattern stands for
nothing. -/
def accepts : (pattern text : List Char) → Bool
  | [], s => s.isEmpty
  | p :: pattern, [] => p == anyText && accepts pattern []
  | p :: pattern, c :: s =>
      if p = anyText then accepts pattern (c :: s) || accepts (p :: pattern) s
      else if p = anyChar then accepts pattern s
      else if p = escape then
        match pattern with
        | [] => false
        | q :: pattern => sameFolded q c && accepts pattern s
      else sameFolded p c && accepts pattern s
termination_by pattern text => pattern.length + text.length

def upToNul (s : List Char) : List Char := s.takeWhile (· != '\x00')

/-- A character as it is read: the two that are no characters are read as the replacement character. -/
def asRead (c : Char) : Char := if c = '\ufffe' ∨ c = '\uffff' then '\ufffd' else c

/-- Whether a pattern describes a text, where both of them end in front of their first NUL character. -/
def fits (pattern text : List Char) : Bool :=
  accepts ((upToNul pattern).map asRead) ((upToNul text).map asRead)

def longestPattern : Nat := 50000

def isTooLong (pattern : List Char) : Bool := longestPattern < (String.ofList pattern).utf8ByteSize

/-- A text with the escape character in front of every character that does not stand for itself. -/
def escaped : List Char → List Char
  | [] => []
  | c :: s =>
      if c = anyText ∨ c = anyChar ∨ c = escape then escape :: c :: escaped s else c :: escaped s

/-- The pattern of the texts that contain this one. -/
def containing (s : List Char) : List Char := anyText :: escaped s ++ [anyText]

end Like

example : String.ofList (Like.containing "50%_off".toList) = "%50\\%\\_off%" := by decide

end Agenda.Text
