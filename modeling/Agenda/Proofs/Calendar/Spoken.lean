import Agenda.Calendar.Spoken
import Agenda.Proofs.Calendar.Codec
import Agenda.Proofs.Text.Integers
import Agenda.Proofs.Text.Matching
import Agenda.Proofs.Text.Words

/-!
# The spellings of dates

A date argument names a day in one of four spellings, two words and two written forms.  A spelled day is resolved
to its stored form, which no second pass takes for anything else, and any other text passes without the blanks
at its ends.

* `Spells` — the spellings.
* `resolveDate_of_spells`, `resolveDate_of_not_spells` — what a date argument is resolved to.
* `readDateArgument_eq_ok_iff` — the days that can be named.
* `resolveDate_resolveDate` — resolving once is enough.
-/

namespace Agenda

open Text

/-- A text is a word, in small letters or capitals. -/
def SpellsWord (word : String) (text : List Char) : Prop := List.Forall₂ SameLetter word.toList text

/-- The spellings of a day, if today is known. -/
inductive Spells (today : Date) : List Char → Date → Prop
  | today {text : List Char} : SpellsWord "today" text → Spells today text today
  | tomorrow {text : List Char} {d : Date} : SpellsWord "tomorrow" text →
      d.dayNumber = today.dayNumber + 1 → Spells today text d
  /-- The form `DD.MM.YYYY`. -/
  | typed {d : Date} : d.HasFourDigitYear → Spells today d.dotted d
  /-- The form `YYYYMMDD`. -/
  | stored {d : Date} : d.HasFourDigitYear → Spells today d.compact.toList d

/-! ### Words -/

section

variable {word : String} {text : List Char}

theorem map_toLower_eq_iff (hsmall : folded word.toList = word.toList) :
    text.map Char.toLower = word.toList ↔ SpellsWord word text := by
  rw [SpellsWord, ← folded_eq_iff, hsmall, folded]

theorem map_toLower_eq_today_iff :
    text.map Char.toLower = "today".toList ↔ SpellsWord "today" text := map_toLower_eq_iff (by decide)

theorem map_toLower_eq_tomorrow_iff :
    text.map Char.toLower = "tomorrow".toList ↔ SpellsWord "tomorrow" text := map_toLower_eq_iff (by decide)

/-- The words are told apart by their lengths. -/
theorem not_spellsWord_today (h : SpellsWord "tomorrow" text) : ¬ SpellsWord "today" text := by
  intro htoday
  have hlength : "today".toList.length = "tomorrow".toList.length :=
    (List.Forall₂.length_eq htoday).trans (List.Forall₂.length_eq h).symm
  exact absurd hlength (by decide)

/-- No word is written with a digit. -/
theorem not_spellsWord_of_isDigit (hletters : word.toList.any Char.isDigit = false)
    (hsmall : folded word.toList = word.toList) {c : Char} (hc : c ∈ text) (hdigit : c.isDigit = true) :
    ¬ SpellsWord word text := by
  intro h
  have hmem : c.toLower ∈ word.toList := by
    rw [← (map_toLower_eq_iff hsmall).2 h]
    exact List.mem_map_of_mem hc
  have hkeep : c.toLower = c := by
    have hbounds := toNat_of_isDigit hdigit
    have hzero : '0'.toNat = 48 := rfl
    rw [← Char.toNat_inj, toNat_toLower, if_neg (by omega)]
  rw [hkeep] at hmem
  exact Bool.false_ne_true (hletters.symm.trans (List.any_eq_true.2 ⟨c, hmem, hdigit⟩))

end

/-! ### Written forms -/

namespace Date

theorem mem_writtenYear {year : Int} {c : Char} (h : c ∈ writtenYear year) :
    c.isDigit = true ∨ c = '-' ∨ c = '+' := by
  unfold writtenYear at h
  split at h
  · rcases List.mem_cons.1 h with hsign | hdigit
    · exact .inr (.inl hsign)
    · exact .inl (isDigit_of_mem_padded hdigit)
  · split at h
    · exact .inl (isDigit_of_mem_padded h)
    · rcases List.mem_cons.1 h with hsign | hdigit
      · exact .inr (.inr hsign)
      · exact .inl (isDigit_of_mem_padded hdigit)

/-- The stored form of a date, of any year, holds nothing but digits and a sign. -/
theorem mem_compact {d : Date} {c : Char} (h : c ∈ d.compact.toList) : c.isDigit = true ∨ c = '-' ∨ c = '+' := by
  rw [compact, String.toList_ofList, List.mem_append, List.mem_append] at h
  rcases h with (hyear | hmonth) | hday
  · exact mem_writtenYear hyear
  · exact .inl (isDigit_of_mem_padded hmonth)
  · exact .inl (isDigit_of_mem_padded hday)

theorem exists_digit_of_padded (width n : Nat) : ∃ c ∈ padded width n, c.isDigit = true := by
  obtain ⟨c, hc⟩ := List.exists_mem_of_ne_nil _ (decimal_ne_nil n)
  exact ⟨c, List.mem_append_right _ hc, isDigit_of_mem_decimal hc⟩

theorem trim_compact (d : Date) : trim d.compact.toList = d.compact.toList := by
  refine trim_eq_self fun c hc => ?_
  rcases mem_compact hc with hdigit | rfl | rfl
  · exact isBlank_of_isDigit hdigit
  · decide
  · decide

/-- A stored form is no typed form, since no period stands in it. -/
theorem ofDottedChars?_compact (d : Date) : ofDottedChars? d.compact.toList = none := by
  rw [Option.eq_none_iff_forall_ne_some]
  intro e h
  obtain ⟨-, hdotted⟩ := ofDottedChars?_eq_some_iff.1 h
  have hperiod : '.' ∈ d.compact.toList := by
    rw [hdotted, dotted]
    simp
  rcases mem_compact hperiod with hdigit | hsign | hsign
  · exact absurd hdigit (by decide)
  · exact absurd hsign (by decide)
  · exact absurd hsign (by decide)

end Date

/-! ### Resolving -/

section

variable {input : String} {today d : Date}

theorem toList_trimmed (s : String) : (trimmed s).toList = trim s.toList := String.toList_ofList

/-- Only what is left without the blanks at the ends counts. -/
theorem resolveDate_congr {a b : String} (h : trim a.toList = trim b.toList) (today : Date) :
    resolveDate a today = resolveDate b today := by
  rw [resolveDate, resolveDate, h]

theorem resolveDate_of_today (h : SpellsWord "today" (trim input.toList)) :
    resolveDate input today = today.compact := if_pos (map_toLower_eq_today_iff.2 h)

theorem resolveDate_of_tomorrow (h : SpellsWord "tomorrow" (trim input.toList)) :
    resolveDate input today = today.next?.elim (trimmed input) Date.compact := by
  have hnot := mt map_toLower_eq_today_iff.1 (not_spellsWord_today h)
  rw [resolveDate, if_neg hnot, if_pos (map_toLower_eq_tomorrow_iff.2 h), trimmed]

theorem resolveDate_of_no_word (htoday : ¬ SpellsWord "today" (trim input.toList))
    (htomorrow : ¬ SpellsWord "tomorrow" (trim input.toList)) :
    resolveDate input today = (Date.ofDottedChars? (trim input.toList)).elim (trimmed input) Date.compact := by
  rw [resolveDate, if_neg (mt map_toLower_eq_today_iff.1 htoday), if_neg (mt map_toLower_eq_tomorrow_iff.1 htomorrow), trimmed]

/-- A text with a digit is resolved as a written form. -/
theorem resolveDate_of_isDigit {c : Char} (hc : c ∈ trim input.toList) (hdigit : c.isDigit = true) :
    resolveDate input today = (Date.ofDottedChars? (trim input.toList)).elim (trimmed input) Date.compact :=
  resolveDate_of_no_word (not_spellsWord_of_isDigit (by decide) (by decide) hc hdigit)
    (not_spellsWord_of_isDigit (by decide) (by decide) hc hdigit)

/-- **A stored form stays**, whatever its year. -/
theorem resolveDate_compact (d today : Date) : resolveDate d.compact today = d.compact := by
  have hdigit : ∃ c ∈ trim d.compact.toList, c.isDigit = true := by
    obtain ⟨c, hc, hdigit⟩ := Date.exists_digit_of_padded 2 d.day
    rw [d.trim_compact, Date.compact, String.toList_ofList]
    exact ⟨c, List.mem_append_right _ hc, hdigit⟩
  obtain ⟨c, hc, hdigit⟩ := hdigit
  rw [resolveDate_of_isDigit hc hdigit, d.trim_compact, d.ofDottedChars?_compact]
  show trimmed d.compact = d.compact
  rw [trimmed, d.trim_compact, String.ofList_toList]

/-- A spelled day is resolved to its stored form. -/
theorem resolveDate_of_spells (h : Spells today (trim input.toList) d) :
    resolveDate input today = d.compact := by
  generalize htext : trim input.toList = text at h
  cases h with
  | today hword => exact resolveDate_of_today (htext ▸ hword)
  | tomorrow hword hday =>
    rw [resolveDate_of_tomorrow (htext ▸ hword), Date.next?_eq_some_iff.2 hday]
    rfl
  | typed hyear =>
    obtain ⟨c, hc, hdigit⟩ := Date.exists_digit_of_padded 2 d.day
    have hmem : c ∈ trim input.toList := by
      rw [htext]
      exact List.mem_append_left _ (List.mem_append_left _ hc)
    rw [resolveDate_of_isDigit hmem hdigit, htext, Date.ofDottedChars?_eq_some_iff.2 ⟨hyear, rfl⟩]
    rfl
  | stored hyear =>
    rw [← d.trim_compact] at htext
    rw [resolveDate_congr htext, resolveDate_compact]

/-- Any other text passes, without the blanks at its ends. -/
theorem resolveDate_of_not_spells (h : ∀ d, ¬ Spells today (trim input.toList) d) :
    resolveDate input today = trimmed input := by
  by_cases htoday : SpellsWord "today" (trim input.toList)
  · exact absurd (.today htoday) (h today)
  by_cases htomorrow : SpellsWord "tomorrow" (trim input.toList)
  · rw [resolveDate_of_tomorrow htomorrow]
    cases hnext : today.next? with
    | none => rfl
    | some d => exact absurd (.tomorrow htomorrow (Date.next?_eq_some_iff.1 hnext)) (h d)
  · rw [resolveDate_of_no_word htoday htomorrow]
    cases hdotted : Date.ofDottedChars? (trim input.toList) with
    | none => rfl
    | some d =>
      obtain ⟨hyear, htext⟩ := Date.ofDottedChars?_eq_some_iff.1 hdotted
      exact absurd (htext ▸ .typed hyear) (h d)

/-- **Resolving once is enough.** -/
theorem resolveDate_resolveDate (input : String) (today : Date) :
    resolveDate (resolveDate input today) today = resolveDate input today := by
  by_cases h : ∃ d, Spells today (trim input.toList) d
  · obtain ⟨d, hd⟩ := h
    rw [resolveDate_of_spells hd, resolveDate_compact]
  · conv_lhs => rw [resolveDate_of_not_spells (not_exists.1 h)]
    refine resolveDate_congr ?_ today
    rw [toList_trimmed, trim_trim]

/-- A text that spells no day is not resolved to a date. -/
theorem ofCompact?_resolveDate_of_not_spells (h : ∀ d, ¬ Spells today (trim input.toList) d) :
    Date.ofCompact? (resolveDate input today) = none := by
  rw [resolveDate_of_not_spells h, Option.eq_none_iff_forall_ne_some]
  intro d hd
  obtain ⟨hyear, hcompact⟩ := Date.ofCompact?_eq_some_iff.1 hd
  refine h d ?_
  rw [← toList_trimmed, hcompact]
  exact .stored hyear

theorem readDateArgument_eq_ok_iff_ofCompact? :
    readDateArgument input today = .ok d ↔ Date.ofCompact? (resolveDate input today) = some d := by
  rw [readDateArgument]
  cases Date.ofCompact? (resolveDate input today) <;> simp

/-- **The days that can be named** are those of the years from 0 to 9999, each in its spellings. -/
theorem readDateArgument_eq_ok_iff :
    readDateArgument input today = .ok d ↔ d.HasFourDigitYear ∧ Spells today (trim input.toList) d := by
  rw [readDateArgument_eq_ok_iff_ofCompact?]
  constructor
  · intro h
    by_cases hspelled : ∃ e, Spells today (trim input.toList) e
    · obtain ⟨e, he⟩ := hspelled
      rw [resolveDate_of_spells he] at h
      obtain ⟨hyear, hcompact⟩ := Date.ofCompact?_eq_some_iff.1 h
      obtain rfl := Date.eq_of_compact_eq hyear hcompact
      exact ⟨hyear, he⟩
    · rw [ofCompact?_resolveDate_of_not_spells (not_exists.1 hspelled)] at h
      cases h
  · intro h'
    obtain ⟨hyear, hspells⟩ := h'
    rw [resolveDate_of_spells hspells, Date.ofCompact?_compact hyear]

end

end Agenda
