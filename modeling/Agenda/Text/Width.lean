import Agenda.Text.CharacterClass

/-!
# Display width

In a terminal most characters take one column, the characters that Unicode calls wide or full-width take
two, and marks that extend the character before them take none.  Some sequences of characters are shown
as one: emoji with a sign of style, with a skin tone or joined to a group, and ligatures of some scripts.

* `widthAlone` — the columns that a character takes on its own.
* `precede` — the columns that a character adds in front of a text.
* `width` — the columns that a text takes.
-/

namespace Agenda.Text

/-! ### What a text begins with -/

/-- The last part of a ligature that marks without a width do not break. -/
inductive LigatureEnd
  | hebrewLamed
  | khmerLetter
  | bugineseYa
  | bugineseIYa
  | tifinaghConsonant
  | tifinaghPair
  | lisuTone
  | oldTurkicI
deriving DecidableEq, Repr

/-- What a text begins with, as far as it matters for a character in front of it. -/
inductive Opening
  /-- Nothing that matters. -/
  | plain
  | emoji
  | skinTone
  /-- A letter of a flag. -/
  | flagLetter
  /-- Several letters of flags. -/
  | flagLetters
  /-- A joiner in front of an emoji. -/
  | joiner
  /-- The frame of a key in front of such a joiner. -/
  | joinedKey
  /-- A letter of a flag in front of such a joiner. -/
  | joinedLetter
  /-- A flag in front of such a joiner. -/
  | joinedFlag
  /-- A letter in front of such a flag. -/
  | letterAndJoinedFlag
  | arabicAlef
  | kiratE
  | kiratAi
  /-- The end of a ligature, with a joiner in front of it or not. -/
  | ligature (last : LigatureEnd) (joined : Bool)
deriving DecidableEq, Repr

/-- The styles that a sign chooses for the character in front of it. -/
inductive Style
  | text
  | emoji
deriving DecidableEq, Repr

/-- The beginning of a text: a sign of style, perhaps, and what follows it. -/
structure Beginning where
  style : Option Style
  opening : Opening
deriving DecidableEq, Repr

namespace Opening

/-- Whether a sign of style leaves the opening as it is. -/
def isLigature : Opening → Bool
  | .ligature _ _ => true
  | .arabicAlef => true
  | _ => false

def isJoiner : Opening → Bool
  | .joiner => true
  | .joinedKey => true
  | _ => false

/-- What is left of an opening behind a sign of style. -/
def behind (style : Style) (o : Opening) : Opening :=
  if o.isLigature ∨ (style = .emoji ∧ o.isJoiner) then o else .plain

end Opening

/-! ### Single characters -/

def joinerChar : Char := '\u200d'

def widthAlone (c : Char) : Nat :=
  if c.toNat ≤ 0xA0 then 1
  else if c.toNat = 0x17D8 then 3
  else if isZeroWidth c then 0
  else if isWide c then 2
  else 1

/-- What a text begins with whose first character is this one. -/
def openingAlone (c : Char) : Opening :=
  if isEmoji c then .emoji
  else if isSkinTone c then .skinTone
  else if isFlagLetter c then .flagLetter
  else if isAlef c then .arabicAlef
  else if isKhmerSubscript c then .ligature .khmerLetter true
  else if isTifinagh c then .ligature .tifinaghConsonant false
  else if inRanges [(0xA4FC, 0xA4FD)] c then .ligature .lisuTone true
  else match c.toNat with
    | 0x5DC => .ligature .hebrewLamed false
    | 0x1A10 => .ligature .bugineseYa false
    | 0x10C03 => .ligature .oldTurkicI false
    | 0x16D67 => .kiratE
    | 0x16D68 => .kiratAi
    | _ => .plain

/-! ### Sequences -/

/-- What a character does in front of a flag or of a part of one. -/
def precedeFlag (c : Char) (o : Opening) : Option (Int × Opening) :=
  match o with
  | .flagLetter => if isFlagLetter c then some (1, .flagLetters) else none
  | .flagLetters =>
      if isFlagLetter c then some (1, .flagLetters) else if c = joinerChar then some (0, .joiner) else none
  | .joinedLetter => if isFlagLetter c then some (-1, .joinedFlag) else none
  | .joinedFlag =>
      if isFlagLetter c then some (3, .letterAndJoinedFlag)
      else if c = joinerChar then some (0, .joiner)
      else none
  | .letterAndJoinedFlag =>
      if isFlagLetter c then some (-1, .joinedFlag) else if c = joinerChar then some (0, .joiner) else none
  | _ => none

/-- What a character does in front of an emoji or of a part of one. -/
def precedeEmoji (c : Char) (o : Opening) : Option (Int × Opening) :=
  match o with
  | .emoji => if c = joinerChar then some (0, .joiner) else none
  | .skinTone =>
      if takesSkinTone c then some (0, .emoji) else if c = joinerChar then some (0, .joiner) else none
  | .joiner =>
      if c.toNat = 0x20E3 then some (0, .joinedKey)
      else if isFlagLetter c then some (1, .joinedLetter)
      else if isSkinTone c then some (0, .skinTone)
      else if isEmoji c then some (0, .emoji)
      else none
  | o => precedeFlag c o

/-- What a character does in front of the end of a ligature. -/
def precedeLigature (c : Char) (last : LigatureEnd) (joined : Bool) : Option (Int × Opening) :=
  if c = joinerChar then some (0, .ligature last true)
  else if isIgnorableMark c then some (0, .ligature last joined)
  else match last with
    | .hebrewLamed => if joined ∧ c.toNat = 0x5D0 then some (0, .plain) else none
    | .khmerLetter => if c.toNat = 0x17D2 then some (-1, .plain) else none
    | .bugineseYa => if joined ∧ c.toNat = 0x1A17 then some (0, .ligature .bugineseIYa true) else none
    | .bugineseIYa => if c.toNat = 0x1A15 then some (0, .plain) else none
    | .tifinaghConsonant =>
        if c.toNat = 0x2D7F then some (1, .ligature .tifinaghPair true)
        else if joined ∧ isTifinagh c then some (0, .plain)
        else none
    | .tifinaghPair => if isTifinagh c then some (-1, .plain) else none
    | .lisuTone => if inRanges [(0xA4F8, 0xA4FB)] c then some (0, .plain) else none
    | .oldTurkicI => if joined ∧ c.toNat = 0x10C32 then some (0, .plain) else none

/-- What a character does in front of a Kirat Rai vowel of several strokes. -/
def precedeKirat (c : Char) (isE : Bool) : Option (Int × Opening) :=
  match c.toNat, isE with
  | 0x16D63, _ => some (0, .plain)
  | 0x16D67, true => some (0, .kiratE)
  | 0x16D68, true => some (1, .kiratE)
  | 0x16D69, true => some (0, .plain)
  | _, _ => none

/-- What a character does in front of an opening that it forms a sign with: the columns that it adds, and
the opening that the text then has. -/
def joins? (c : Char) (o : Opening) : Option (Int × Opening) :=
  match o with
  | .arabicAlef =>
      if isLam c then some (0, .plain) else if isTransparent c then some (0, .arabicAlef) else none
  | .kiratE => precedeKirat c true
  | .kiratAi => precedeKirat c false
  | .ligature last joined => precedeLigature c last joined
  | o => precedeEmoji c o

/-- What a character adds in front of an opening. -/
def precedeOpening (c : Char) (o : Opening) : Int × Opening :=
  (joins? c o).getD (widthAlone c, openingAlone c)

/-- What a character adds in front of a text, and how the text then begins.  It may take columns away
from what follows, when both become one sign. -/
def precede (c : Char) (b : Beginning) : Int × Beginning :=
  if b.style = some .emoji ∧ hasEmojiStyle c then
    (if b.opening.isJoiner then 0 else 2, ⟨none, .emoji⟩)
  else if c.toNat ≤ 0xA0 then (1, ⟨none, .plain⟩)
  else
    let opening := if b.style = some .emoji ∧ ¬ b.opening.isLigature then .plain else b.opening
    if c = '\ufe0f' then (0, ⟨some .emoji, opening.behind .emoji⟩)
    else if c = '\ufe0e' then (0, ⟨some .text, opening.behind .text⟩)
    else if b.style = some .text ∧ hasTextStyle c then (1, ⟨none, .plain⟩)
    else
      let (columns, after) := precedeOpening c opening
      (columns, ⟨none, after⟩)

def width (s : List Char) : Nat :=
  (s.foldr (fun c r => ((precede c r.2).1 + r.1, (precede c r.2).2)) ((0 : Int), ⟨none, .plain⟩)).1.toNat

example : width "Äb漢字".toList = 6 := by decide +kernel

end Agenda.Text
