import Agenda.Settings.Basic
import Agenda.Settings.Quoted
import Agenda.Text.Number

/-!
# Settings files

A settings file is a TOML text of comments, keys with simple values and headers of groups.  A value is an
integer, a number with a fraction or an exponent, a truth value, or a text on one line between double
quotes, with escapes, or between single quotes, without.  No key is given twice.

* `Toml.lineOf?` — what a line says.
* `Document.add?` — what all lines say together.
* `Toml.values?` — the keys outside of groups, with the names of the groups among them.
-/

namespace Agenda.Toml

open Settings Text

inductive Line
  | blank
  | header (path : List String)
  | entry (path : List String) (value : SettingValue)
deriving Repr

def isSpace (c : Char) : Bool := c == ' ' || c == '\t'

/-- A text without the blanks in front of it. -/
def skip (s : List Char) : List Char := s.dropWhile isSpace

/-- Whether nothing but a comment is left of a line. -/
def endsHere (s : List Char) : Bool :=
  match skip s with
  | [] => true
  | '#' :: comment => !comment.any isControl
  | _ => false

/-! ### Texts -/

/-- The text between single quotes whose opening quote was read, and what follows the closing one. -/
def literalText? : List Char → Option (List Char × List Char)
  | [] => none
  | '\'' :: s => some ([], s)
  | c :: s => if isControl c then none else (literalText? s).map fun r => (c :: r.1, r.2)

/-! ### Numbers -/

/-- The digits of a number in whose midst single underscores may stand. -/
def digitsOf? (isDigit : Char → Bool) (s : List Char) : Option (List Char) :=
  let groups := s.splitOn '_'
  if groups.all (fun g => !g.isEmpty && g.all isDigit) then some groups.flatten else none

def valueOf (base : Nat) (digits : List Char) : Nat :=
  digits.foldl (fun n c => base * n + (hexDigit? c).getD 0) 0

/-- The number written with the mark of a base in front. -/
def basedInteger? (base : Nat) (s : List Char) : Option Int :=
  (digitsOf? (fun c => (hexDigit? c).any (· < base)) s).map fun ds => (valueOf base ds : Int)

/-- The digits of a number in decimal, with no zero in front of other digits. -/
def decimalDigits? (s : List Char) : Option (List Char) :=
  match digitsOf? Char.isDigit s with
  | some ('0' :: _ :: _) => none
  | ds => ds

/-- The integer that a word spells. -/
def integer? (s : List Char) : Option Int :=
  let value := match s with
    | '0' :: 'x' :: r => basedInteger? 16 r
    | '0' :: 'o' :: r => basedInteger? 8 r
    | '0' :: 'b' :: r => basedInteger? 2 r
    | '-' :: r => (decimalDigits? r).map fun ds => -(valueOf 10 ds : Int)
    | '+' :: r => (decimalDigits? r).map fun ds => (valueOf 10 ds : Int)
    | r => (decimalDigits? r).map fun ds => (valueOf 10 ds : Int)
  value.filter fun n => least64 ≤ n && n ≤ greatest64

/-- A number written with a fraction or an exponent. -/
structure Scientific where
  negative : Bool
  /-- The digits on both sides of the point. -/
  digits : List Char
  /-- The power of ten that the digits are multiplied with. -/
  exponent : Int

/-- The exponent of ten that a word spells, none being zero. -/
def exponent? : List Char → Option Int
  | [] => some 0
  | c :: s =>
      if c = 'e' ∨ c = 'E' then
        (digitsOf? Char.isDigit (withoutSign s)).map fun ds =>
          if s.head? = some '-' then -(valueOf 10 ds : Int) else valueOf 10 ds
      else none

/-- The number with a fraction or an exponent that a word spells. -/
def scientific? (s : List Char) : Option Scientific := do
  let isPart := fun c : Char => c.isDigit || c == '_'
  let word := withoutSign s
  let whole ← decimalDigits? (word.takeWhile isPart)
  match word.dropWhile isPart with
  | [] => none
  | '.' :: r =>
      let fraction ← digitsOf? Char.isDigit (r.takeWhile isPart)
      let exponent ← exponent? (r.dropWhile isPart)
      some ⟨s.head? = some '-', whole ++ fraction, exponent - fraction.length⟩
  | r => (exponent? r).map fun exponent => ⟨s.head? = some '-', whole, exponent⟩

/-- The least number that is too large for 64 bits of floating point: it lies in the middle between the
greatest of them and the next power of two. -/
def leastTooLarge : Nat := (Nat.pow 2 54 - 1) * Nat.pow 2 970

def digitsOfTooLarge : Nat := 309

/-- Whether the size of a number is too large for 64 bits of floating point. -/
def Scientific.isTooLarge (n : Scientific) : Bool :=
  let digits := n.digits.dropWhile (· == '0')
  let magnitude := digits.length + n.exponent
  !digits.isEmpty && (magnitude > digitsOfTooLarge || (magnitude == digitsOfTooLarge &&
    valueOf 10 digits * Nat.pow 10 n.exponent.toNat ≥ leastTooLarge * Nat.pow 10 (-n.exponent).toNat))

/-- Whether a word spells a number with a fraction or an exponent, or no number at all.  A number must not
be too large; there is no such limit below zero. -/
def isDecimal (s : List Char) : Bool :=
  withoutSign s == "inf".toList || withoutSign s == "nan".toList ||
    (scientific? s).any fun n => n.negative || !n.isTooLarge

/-! ### Lines -/

/-- The value that a word spells. -/
def wordValue? (s : List Char) : Option SettingValue :=
  if s = "true".toList then some (.boolean true)
  else if s = "false".toList then some (.boolean false)
  else match integer? s with
    | some n => some (.integer n)
    | none => if isDecimal s then some .decimal else none

/-- The value at the beginning of a text, and what follows. -/
def value? : List Char → Option (SettingValue × List Char)
  | '"' :: s => (quotedText? s).map fun r => (.text (String.ofList r.1), r.2)
  | '\'' :: s => (literalText? s).map fun r => (.text (String.ofList r.1), r.2)
  | s =>
      let inWord := fun c : Char => c != '#' && !isSpace c
      (wordValue? (s.takeWhile inWord)).map fun v => (v, s.dropWhile inWord)

/-- The characters of a key without quotes. -/
def isKeyChar (c : Char) : Bool := c.isAlphanum || c == '_' || c == '-'

/-- The part of a key at the beginning of a text, and what follows. -/
def keyPart? : List Char → Option (String × List Char)
  | '"' :: s => (quotedText? s).map fun r => (String.ofList r.1, r.2)
  | '\'' :: s => (literalText? s).map fun r => (String.ofList r.1, r.2)
  | s =>
      if (s.takeWhile isKeyChar).isEmpty then none
      else some (String.ofList (s.takeWhile isKeyChar), s.dropWhile isKeyChar)

def mostParts : Nat := 79

/-- The parts of a key at the beginning of a text with points between them, at most `count` of them, and
what follows. -/
def key? : (count : Nat) → List Char → Option (List String × List Char)
  | 0, _ => none
  | count + 1, s => do
      let (part, rest) ← keyPart? (skip s)
      match skip rest with
      | '.' :: rest => (key? count rest).map fun r => (part :: r.1, r.2)
      | rest => some ([part], rest)

/-- What a line says; none if it is no line of a settings file. -/
def lineOf? (s : List Char) : Option Line :=
  match skip s with
  | [] => some .blank
  | '#' :: _ => if endsHere s then some .blank else none
  | '[' :: r => do
      let (path, rest) ← key? mostParts r
      match rest with
      | ']' :: rest => if endsHere rest then some (.header path) else none
      | _ => none
  | r => do
      let (path, rest) ← key? mostParts r
      match rest with
      | '=' :: rest =>
          let (value, rest) ← value? (skip rest)
          if endsHere rest then some (.entry path value) else none
      | _ => none

/-- A line without the carriage return at its end. -/
def withoutReturn (s : List Char) : List Char :=
  if s.getLast? = some '\r' then s.dropLast else s

/-- The lines of a text.  A line ends with a line feed or with a carriage return and a line feed. -/
def linesOf (s : List Char) : List (List Char) :=
  let parts := s.splitOn '\n'
  parts.dropLast.map withoutReturn ++ parts.getLast?.toList

/-! ### Documents -/

/-- How a group came up. -/
inductive GroupKind
  /-- It has a header of its own. -/
  | headed
  /-- A header leads through it. -/
  | implied
  /-- A key of several parts leads through it. -/
  | dotted
deriving DecidableEq, Repr

inductive Item
  | value (v : SettingValue)
  | group (kind : GroupKind)
deriving Repr

/-- What was said so far: the group that the next keys belong to, and what is under each path. -/
structure Document where
  group : List String
  said : List (List String × Item)

namespace Document

def item? (d : Document) (path : List String) : Option Item :=
  (d.said.find? fun entry => entry.1 == path).map Prod.snd

/-- Says what is under a path of which nothing was said. -/
def say (d : Document) (path : List String) (item : Item) : Document :=
  { d with said := d.said ++ [(path, item)] }

/-- Goes along the parts of a path and makes the groups that are missing.  No path leads through a value,
and no key of several parts leads through a group with a header. -/
def descend? (kind : GroupKind) (d : Document) (start : List String) : List String → Option Document
  | [] => some d
  | part :: path =>
      let here := start ++ [part]
      match d.item? here with
      | none => descend? kind (d.say here (.group kind)) here path
      | some (.group old) =>
          if kind = .dotted ∧ old = .headed then none else descend? kind d here path
      | some (.value _) => none

/-- Opens the group of a header.  Every group has one header at most, and none if keys made it. -/
def open? (d : Document) (path : List String) : Option Document := do
  let d ← d.descend? .implied [] path.dropLast
  match d.item? path with
  | none => some ⟨path, d.said ++ [(path, .group .headed)]⟩
  | some (.group .implied) =>
      some ⟨path, d.said.map fun entry => if entry.1 == path then (path, .group .headed) else entry⟩
  | some _ => none

/-- Gives a value to a key of the open group.  The groups that a key of several parts names are made by
such keys only. -/
def set? (d : Document) (path : List String) (value : SettingValue) : Option Document := do
  let place := d.group ++ path.dropLast
  let after ← d.descend? .dotted d.group path.dropLast
  let isFit := path.dropLast.isEmpty || match after.item? place with
    | some (.group .dotted) => true
    | _ => false
  if isFit ∧ (after.item? (d.group ++ path)).isNone then some (after.say (d.group ++ path) (.value value))
  else none

def add? (d : Document) : Line → Option Document
  | .blank => some d
  | .header path => d.open? path
  | .entry path value => d.set? path value

end Document

/-- The top key of a path with its value. -/
def topEntry : List String × Item → List (String × SettingValue)
  | ([key], .value v) => [(key, v)]
  | ([key], .group _) => [(key, .group)]
  | _ => []

/-- A text without the byte order mark in front of it. -/
def withoutMark (s : List Char) : List Char :=
  match s with
  | '\ufeff' :: s => s
  | s => s

/-- The keys and groups of a settings file. -/
def values? (s : String) : Option SettingValues := do
  let lines ← (linesOf (withoutMark s.toList)).mapM lineOf?
  let document ← lines.foldlM Document.add? ⟨[], []⟩
  some (document.said.flatMap topEntry)

example : values? "# c\n\nlist_limit = 1_0 # x\r\n[other]\nlist_limit = 'a'" =
    some [("list_limit", .integer 10), ("other", .group)] := by decide

example : values? "a = 1\na = 2" = none := by decide

end Agenda.Toml
