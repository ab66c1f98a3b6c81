import Agenda.Calendar.Written
import Agenda.Proofs.Calendar.Years
import Agenda.Proofs.Text.ByteOrder
import Agenda.Proofs.Text.Digits
import Mathlib.Data.String.Basic

/-!
# The written forms of dates

Reading a written date accepts exactly what writing produces for the years 0 to 9999, and there the stored
forms are ordered as the dates are.

* `ofCompact?_eq_some_iff` — a text is read as a date exactly if it is the stored form of that date and the
  year has four digits.
* `ofDottedChars?_eq_some_iff` — the same for the form that people type.
* `compact_lt_compact_iff` — the order of stored forms.
* `compact_exact_and_ordered` — what reads back, and the order of the bytes.
-/

namespace Agenda

open Text

namespace Date

def HasFourDigitYear (d : Date) : Prop := 0 ≤ d.year ∧ d.year ≤ 9999

instance (d : Date) : Decidable d.HasFourDigitYear :=
  inferInstanceAs (Decidable (0 ≤ d.year ∧ d.year ≤ 9999))

theorem HasFourDigitYear.of_le_of_le {a b d : Date} (ha : a.HasFourDigitYear) (hb : b.HasFourDigitYear)
    (had : a ≤ d) (hdb : d ≤ b) : d.HasFourDigitYear :=
  ⟨ha.1.trans (year_le_of_le had), (year_le_of_le hdb).trans hb.2⟩

theorem ofDigits?_eq_some_iff {year month day : List Char} {d : Date} :
    ofDigits? year month day = some d ↔
      ∃ y : Nat, digits? year = some y ∧ (y : Int) = d.year ∧ digits? month = some d.month ∧
        digits? day = some d.day := by
  simp only [ofDigits?, Option.bind_eq_bind, Option.bind_eq_some_iff, of?_eq_some_iff]
  constructor
  · intro h
    obtain ⟨y, hy, m, hm, n, hn, h₁, h₂, h₃⟩ := h
    exact ⟨y, hy, h₁.symm, h₂ ▸ hm, h₃ ▸ hn⟩
  · intro h
    obtain ⟨y, hy, h₁, hm, hn⟩ := h
    exact ⟨y, hy, d.month, hm, d.day, hn, h₁.symm, rfl, rfl⟩

/-- Digits in the widths of the written forms name a date exactly if they are its padded fields. -/
theorem ofDigits?_eq_some_iff_padded {year month day : List Char} {d : Date} (hyear : year.length = 4)
    (hmonth : month.length = 2) (hday : day.length = 2) :
    ofDigits? year month day = some d ↔ d.HasFourDigitYear ∧ year = padded 4 d.year.natAbs ∧
      month = padded 2 d.month ∧ day = padded 2 d.day := by
  rw [ofDigits?_eq_some_iff]
  constructor
  · intro h
    obtain ⟨y, hy, hdy, hm, hd⟩ := h
    obtain ⟨hy, hlt⟩ := eq_padded_of_digits? hy
    rw [hyear] at hy hlt
    have hy' : y = d.year.natAbs := by omega
    have hm := (eq_padded_of_digits? hm).1
    have hd := (eq_padded_of_digits? hd).1
    rw [hmonth] at hm
    rw [hday] at hd
    exact ⟨⟨by omega, by omega⟩, hy' ▸ hy, hm, hd⟩
  · intro h
    obtain ⟨hfour, rfl, rfl, rfl⟩ := h
    have hpos := hfour.1
    exact ⟨d.year.natAbs, digits?_padded _ _, by omega, digits?_padded _ _, digits?_padded _ _⟩

/-- The padded fields of a date have the widths of the written forms. -/
theorem HasFourDigitYear.length_padded {d : Date} (h : d.HasFourDigitYear) :
    (padded 4 d.year.natAbs).length = 4 ∧ (padded 2 d.month).length = 2 ∧ (padded 2 d.day).length = 2 := by
  have hyear := h.2
  have hpos := h.1
  have hmonth := d.month_le
  have hday := d.day_le
  have hlength := monthLength_le d.year d.month
  refine ⟨Text.length_padded (by decide) ?_, Text.length_padded (by decide) ?_,
    Text.length_padded (by decide) ?_⟩
  · omega
  · omega
  · omega

/-! ### The stored form -/

/-- The stored form is cut after four and after six characters. -/
theorem ofCompact?_ofList {year month day : List Char} (hyear : year.length = 4) (hmonth : month.length = 2)
    (hday : day.length = 2) :
    ofCompact? (String.ofList (year ++ month ++ day)) = ofDigits? year month day := by
  match year, hyear, month, hmonth, day, hday with
  | [_, _, _, _], _, [_, _], _, [_, _], _ => simp [ofCompact?]

/-- Only eight characters can be a stored date. -/
theorem exists_of_ofCompact?_eq_some {s : String} {d : Date} (h : ofCompact? s = some d) :
    ∃ year month day : List Char, (year.length = 4 ∧ month.length = 2 ∧ day.length = 2) ∧
      s = String.ofList (year ++ month ++ day) ∧ ofDigits? year month day = some d := by
  rw [ofCompact?] at h
  split at h
  · rename_i y₁ y₂ y₃ y₄ m₁ m₂ d₁ d₂ hlist
    refine ⟨[y₁, y₂, y₃, y₄], [m₁, m₂], [d₁, d₂], ⟨rfl, rfl, rfl⟩, ?_, h⟩
    rw [← String.ofList_toList (s := s), hlist]
    rfl
  · exact absurd h (by simp)

/-- In the years from 0 to 9999 the stored form has four digits for the year. -/
theorem compact_of_hasFourDigitYear {d : Date} (h : d.HasFourDigitYear) :
    d.compact = String.ofList (padded 4 d.year.natAbs ++ padded 2 d.month ++ padded 2 d.day) := by
  rw [compact, writtenYear]
  rw [if_neg (by have := h.1; omega), if_pos h.2]

/-- **A text is read as a date exactly if it is its stored form and the year has four digits.** -/
theorem ofCompact?_eq_some_iff {s : String} {d : Date} :
    ofCompact? s = some d ↔ d.HasFourDigitYear ∧ s = d.compact := by
  constructor
  · intro h
    obtain ⟨year, month, day, ⟨hyear, hmonth, hday⟩, rfl, hdigits⟩ := exists_of_ofCompact?_eq_some h
    obtain ⟨hfour, rfl, rfl, rfl⟩ := (ofDigits?_eq_some_iff_padded hyear hmonth hday).1 hdigits
    exact ⟨hfour, (compact_of_hasFourDigitYear hfour).symm⟩
  · intro h'
    obtain ⟨hfour, rfl⟩ := h'
    obtain ⟨hyear, hmonth, hday⟩ := hfour.length_padded
    rw [compact_of_hasFourDigitYear hfour, ofCompact?_ofList hyear hmonth hday,
      ofDigits?_eq_some_iff_padded hyear hmonth hday]
    exact ⟨hfour, rfl, rfl, rfl⟩

theorem ofCompact?_compact {d : Date} (h : d.HasFourDigitYear) : ofCompact? d.compact = some d :=
  ofCompact?_eq_some_iff.2 ⟨h, rfl⟩

/-- With a sign in front, the stored form is too long to be read. -/
theorem ofCompact?_compact_eq_none {d : Date} (h : ¬ d.HasFourDigitYear) : ofCompact? d.compact = none := by
  have hlong : 5 ≤ (writtenYear d.year).length := by
    have hpadded := le_length_padded 4 d.year.natAbs
    rw [HasFourDigitYear] at h
    rw [writtenYear]
    split
    · simpa using hpadded
    · split
      · omega
      · simpa using hpadded
  have hmonth := le_length_padded 2 d.month
  have hday := le_length_padded 2 d.day
  cases hread : ofCompact? d.compact with
  | none => rfl
  | some e =>
    obtain ⟨year, month, day, ⟨h₁, h₂, h₃⟩, hlist, -⟩ := exists_of_ofCompact?_eq_some hread
    have hlength := congrArg List.length (String.ofList_injective hlist)
    simp only [List.length_append] at hlength
    omega

/-- **A stored form is read back exactly in the years from 0 to 9999.** -/
theorem isSome_ofCompact?_compact_iff {d : Date} :
    (ofCompact? d.compact).isSome = true ↔ d.HasFourDigitYear := by
  by_cases h : d.HasFourDigitYear
  · simp [ofCompact?_compact h, h]
  · simp [ofCompact?_compact_eq_none h, h]

/-- In the years from 0 to 9999 no other date has the same stored form. -/
theorem eq_of_compact_eq {d e : Date} (hd : d.HasFourDigitYear) (h : e.compact = d.compact) : e = d := by
  have hread : ofCompact? e.compact = some d := h ▸ ofCompact?_compact hd
  have he : e.HasFourDigitYear := isSome_ofCompact?_compact_iff.1 (by rw [hread]; rfl)
  rw [ofCompact?_compact he, Option.some.injEq] at hread
  exact hread

/-- A text of eight digits that names a day. -/
def IsStoredDate (s : String) : Prop :=
  s.length = 8 ∧ (∀ c ∈ s.toList, c.isDigit = true) ∧ (ofCompact? s).isSome = true

/-- Whatever can be read as a date has eight digits. -/
theorem isStoredDate_iff {s : String} : IsStoredDate s ↔ (ofCompact? s).isSome = true := by
  refine ⟨fun h => h.2.2, fun h => ?_⟩
  obtain ⟨d, hd⟩ := Option.isSome_iff_exists.1 h
  obtain ⟨year, month, day, ⟨hyear, hmonth, hday⟩, rfl, hdigits⟩ := exists_of_ofCompact?_eq_some hd
  obtain ⟨y, hy, -, hm, hn⟩ := ofDigits?_eq_some_iff.1 hdigits
  refine ⟨?_, ?_, h⟩
  · rw [String.length_ofList, List.length_append, List.length_append, hyear, hmonth, hday]
  · rw [String.toList_ofList]
    simp only [List.mem_append]
    rintro c ((hc | hc) | hc)
    · exact List.all_eq_true.1 (digits?_eq_some_iff.1 hy).1.2 c hc
    · exact List.all_eq_true.1 (digits?_eq_some_iff.1 hm).1.2 c hc
    · exact List.all_eq_true.1 (digits?_eq_some_iff.1 hn).1.2 c hc

/-- The stored form of a date has eight digits exactly in the years from 0 to 9999. -/
theorem isStoredDate_compact_iff {d : Date} : IsStoredDate d.compact ↔ d.HasFourDigitYear :=
  isStoredDate_iff.trans isSome_ofCompact?_compact_iff

/-! ### The typed form -/

/-- The form `DD.MM.YYYY` of a date, for the years from 0 to 9999. -/
def dotted (d : Date) : List Char :=
  padded 2 d.day ++ '.' :: padded 2 d.month ++ '.' :: padded 4 d.year.natAbs

theorem ofDottedChars?_append {year month day : List Char} (hyear : year.length = 4)
    (hmonth : month.length = 2) (hday : day.length = 2) :
    ofDottedChars? (day ++ '.' :: month ++ '.' :: year) = ofDigits? year month day := by
  match year, hyear, month, hmonth, day, hday with
  | [_, _, _, _], _, [_, _], _, [_, _], _ => rfl

/-- **A text names a day exactly if it is its typed form and the year has four digits.** -/
theorem ofDottedChars?_eq_some_iff {s : List Char} {d : Date} :
    ofDottedChars? s = some d ↔ d.HasFourDigitYear ∧ s = d.dotted := by
  constructor
  · intro h
    rw [ofDottedChars?.eq_def] at h
    split at h
    · obtain ⟨hfour, hyear, hmonth, hday⟩ := (ofDigits?_eq_some_iff_padded rfl rfl rfl).1 h
      refine ⟨hfour, ?_⟩
      rw [dotted, ← hyear, ← hmonth, ← hday]
      rfl
    · cases h
  · intro h'
    obtain ⟨hfour, rfl⟩ := h'
    obtain ⟨hyear, hmonth, hday⟩ := hfour.length_padded
    rw [dotted, ofDottedChars?_append hyear hmonth hday, ofDigits?_eq_some_iff_padded hyear hmonth hday]
    exact ⟨hfour, rfl, rfl, rfl⟩

/-! ### The order of the stored forms -/

/-- The digits of a stored form, read as one number. -/
theorem digits?_compact {d : Date} (h : d.HasFourDigitYear) :
    digits? d.compact.toList = some (100 * (100 * d.year.natAbs + d.month) + d.day) := by
  obtain ⟨-, hmonth, hday⟩ := h.length_padded
  have hread := digits?_append (digits?_append (digits?_padded 4 d.year.natAbs) (digits?_padded 2 d.month))
    (digits?_padded 2 d.day)
  rw [hmonth, hday] at hread
  rw [compact_of_hasFourDigitYear h, String.toList_ofList]
  exact hread

theorem length_toList_compact {d : Date} (h : d.HasFourDigitYear) : d.compact.toList.length = 8 := by
  obtain ⟨hyear, hmonth, hday⟩ := h.length_padded
  rw [compact_of_hasFourDigitYear h, String.toList_ofList, List.length_append, List.length_append, hyear,
    hmonth, hday]

/-- **In the years from 0 to 9999 the stored forms are ordered as the dates are.** -/
theorem compact_lt_compact_iff {d e : Date} (hd : d.HasFourDigitYear) (he : e.HasFourDigitYear) :
    d.compact < e.compact ↔ d < e := by
  have hlength := (length_toList_compact hd).trans (length_toList_compact he).symm
  rw [String.lt_iff_toList_lt, lt_iff_of_digits? (digits?_compact hd) (digits?_compact he) hlength]
  show _ ↔ d.year < e.year ∨ d.year = e.year ∧ (d.month < e.month ∨ d.month = e.month ∧ d.day < e.day)
  have hpos := hd.1
  have hpos' := he.1
  have hmonth := d.month_le
  have hmonth' := e.month_le
  have hday := d.day_le.trans (monthLength_le d.year d.month)
  have hday' := e.day_le.trans (monthLength_le e.year e.month)
  omega

/-- **The stored form is exact and keeps the order.**  A text is read as a date exactly if it is the stored form
of that date and the year has four digits, and the bytes of these forms are ordered as the dates are.  The stored
form of another year is not read, not even as another date. -/
theorem compact_exact_and_ordered :
    (∀ (s : String) (d : Date), ofCompact? s = some d ↔ (0 ≤ d.year ∧ d.year ≤ 9999) ∧ s = d.compact) ∧
      (∀ d e : Date, d.HasFourDigitYear → e.HasFourDigitYear →
        (d < e ↔ bytes d.compact < bytes e.compact)) ∧
      ∀ d : Date, ¬ d.HasFourDigitYear → ofCompact? d.compact = none := by
  refine ⟨fun s d => ofCompact?_eq_some_iff, ?_, fun d h => ofCompact?_compact_eq_none h⟩
  intro d e hd he
  rw [← lt_iff_bytes_lt, compact_lt_compact_iff hd he]

/-- The day before year 1000 keeps its leading zero, and so comes first; the day after year 9999 does not, and
would come before both. -/
theorem compact_exact_and_ordered_around_year_1000 :
    let eve : Date := ⟨999, 12, 31, by decide, by decide, by decide, by decide, by decide, by decide⟩
    let morning : Date := ⟨1000, 1, 1, by decide, by decide, by decide, by decide, by decide, by decide⟩
    let beyond : Date := ⟨10000, 1, 1, by decide, by decide, by decide, by decide, by decide, by decide⟩
    eve.HasFourDigitYear ∧ morning.HasFourDigitYear ∧ ¬ beyond.HasFourDigitYear ∧
      ofCompact? "09991231" = some eve ∧ ofCompact? "9991231" ≠ some eve ∧
      bytes eve.compact < bytes morning.compact ∧ ofCompact? beyond.compact = none ∧
      beyond.compact < eve.compact := by
  intro eve morning beyond
  have heve : eve.HasFourDigitYear := by decide
  have hmorning : morning.HasFourDigitYear := by decide
  have hbeyond : ¬ beyond.HasFourDigitYear := by decide
  obtain ⟨hread, horder, hnone⟩ := compact_exact_and_ordered
  refine ⟨heve, hmorning, hbeyond, (hread _ eve).2 ⟨heve, by decide⟩, ?_, ?_, hnone beyond hbeyond, by decide⟩
  · exact fun h => absurd ((hread _ eve).1 h).2 (by decide)
  · exact (horder eve morning heve hmorning).1 (by decide)

end Date

end Agenda
