import Agenda.Proofs.Rule.Canonical

/-!
# Rules are known by their descriptions

A description names the kind of a rule, its weekdays, its days of the month and its months in words.  Well-formed
rules with the same description are equal: the first letter tells apart the kinds, the last one tells apart the
rules that count days and years, and the names in a row are cut out of it again at their commas.

* `namesInARow_injective` — names without commas, from their row.
* `NumberSet.eq_of_row_eq` — a set of weekdays or months, from the row of its names.
* `MonthDays.dayNames_injective` — a selection of days, from its names.
* `Rule.eq_of_describe_eq` — a rule, from its description.
* `Rule.all_describeChars` — the characters of descriptions.
-/

namespace Agenda

open Text

/-! ### Names in a row -/

/-- What stands in front of the first mark, and what stands behind it. -/
theorem append_cons_inj {α : Type*} [DecidableEq α] {mark : α} {front front' back back' : List α}
    (hfront : mark ∉ front) (hfront' : mark ∉ front') (h : front ++ mark :: back = front' ++ mark :: back') :
    front = front' ∧ back = back' := by
  have hplace := congrArg (List.idxOf mark) h
  rw [List.idxOf_append_of_notMem hfront, List.idxOf_append_of_notMem hfront', List.idxOf_cons_self,
    List.idxOf_cons_self] at hplace
  obtain ⟨rfl, hback⟩ := List.append_inj h hplace
  exact ⟨rfl, (List.cons.inj hback).2⟩

/-- A row of names has commas between them, with a space in front of each name but the first. -/
theorem namesInARow_cons (name : List Char) (names : List (List Char)) :
    namesInARow (name :: names) = [','].intercalate (name :: names.map (' ' :: ·)) := by
  induction names generalizing name with
  | nil => rfl
  | cons next names ih =>
    have hspace : ∀ rest : List (List Char),
        [','].intercalate ((' ' :: next) :: rest) = ' ' :: [','].intercalate (next :: rest) := by
      intro rest
      cases rest <;> rfl
    show [',', ' '].intercalate (name :: next :: names) = _
    rw [List.intercalate_cons_cons, List.map_cons, List.intercalate_cons_cons, hspace, ← ih next,
      List.append_assoc, List.append_assoc]
    rfl

/-- **Names without commas are known by their row.** -/
theorem namesInARow_injective {a b : List (List Char)} (ha : a ≠ []) (hb : b ≠ [])
    (hcomma : ∀ name ∈ a, ',' ∉ name) (hcomma' : ∀ name ∈ b, ',' ∉ name) (h : namesInARow a = namesInARow b) :
    a = b := by
  -- a row is cut at its commas into the first name and the others, each behind a space
  have hcut : ∀ (name : List Char) (names : List (List Char)), (∀ n ∈ name :: names, ',' ∉ n) →
      (namesInARow (name :: names)).splitOn ',' = name :: names.map (' ' :: ·) := by
    intro name names hnames
    rw [namesInARow_cons]
    refine List.splitOn_intercalate ',' ?_ (by simp)
    intro item hitem
    rcases List.mem_cons.1 hitem with rfl | hitem
    · exact hnames item List.mem_cons_self
    · obtain ⟨n, hn, rfl⟩ := List.mem_map.1 hitem
      simpa using hnames n (List.mem_cons_of_mem _ hn)
  obtain ⟨name, names, rfl⟩ := List.exists_cons_of_ne_nil ha
  obtain ⟨name', names', rfl⟩ := List.exists_cons_of_ne_nil hb
  have hitems := congrArg (List.splitOn ',') h
  rw [hcut name names hcomma, hcut name' names' hcomma', List.cons.injEq] at hitems
  obtain ⟨rfl, hrest⟩ := hitems
  rw [List.map_injective_iff.2 (List.cons_injective) hrest]

theorem mem_namesInARow {names : List (List Char)} {c : Char} (h : c ∈ namesInARow names) :
    (c = ',' ∨ c = ' ') ∨ ∃ name ∈ names, c ∈ name := by
  induction names with
  | nil => exact absurd h List.not_mem_nil
  | cons name names ih =>
    cases names with
    | nil =>
      rw [namesInARow, List.intercalate_singleton] at h
      exact .inr ⟨name, List.mem_cons_self, h⟩
    | cons next names =>
      rw [namesInARow, List.intercalate_cons_cons, List.mem_append, List.mem_append] at h
      rcases h with (h | h) | h
      · exact .inr ⟨name, List.mem_cons_self, h⟩
      · exact .inl (by simpa using h)
      · rcases ih h with hsign | ⟨n, hn, hc⟩
        · exact .inl hsign
        · exact .inr ⟨n, List.mem_cons_of_mem _ hn, hc⟩

/-! ### Weekdays and months -/

/-- A set of numbers is known by their names, if each number up to a bound has a name of its own. -/
theorem NumberSet.eq_of_names_eq {name : Nat → List Char} (bound : Nat)
    (hnames : ((List.range' 1 bound).map name).Nodup) {s t : NumberSet} (hs : ∀ n ∈ s, 1 ≤ n ∧ n ≤ bound)
    (ht : ∀ n ∈ t, 1 ≤ n ∧ n ≤ bound) (h : s.elements.map name = t.elements.map name) : s = t := by
  have hsubset : ∀ {a b : NumberSet}, (∀ n ∈ a, 1 ≤ n ∧ n ≤ bound) → (∀ n ∈ b, 1 ≤ n ∧ n ≤ bound) →
      a.elements.map name = b.elements.map name → ∀ n ∈ a, n ∈ b := by
    intro a b ha hb hab n hn
    have hname : name n ∈ b.elements.map name := hab ▸ List.mem_map_of_mem hn
    obtain ⟨m, hm, heq⟩ := List.mem_map.1 hname
    have hrange : ∀ {k}, 1 ≤ k ∧ k ≤ bound → k ∈ List.range' 1 bound := by
      intro k hk
      rw [List.mem_range'_1]
      omega
    have hmn := List.inj_on_of_nodup_map hnames (hrange (hb m hm)) (hrange (ha n hn)) heq
    exact hmn ▸ hm
  exact ext_mem fun n => ⟨hsubset hs ht h n, hsubset ht hs h.symm n⟩

/-- The same set is known by the row of the names, if no name holds a comma. -/
theorem NumberSet.eq_of_row_eq {name : Nat → List Char} (bound : Nat)
    (hnames : ((List.range' 1 bound).map name).Nodup) (hcomma : ∀ n, ',' ∉ name n) {s t : NumberSet}
    (hs : s.elements ≠ [] ∧ ∀ n ∈ s, 1 ≤ n ∧ n ≤ bound) (ht : t.elements ≠ [] ∧ ∀ n ∈ t, 1 ≤ n ∧ n ≤ bound)
    (h : namesInARow (s.elements.map name) = namesInARow (t.elements.map name)) : s = t := by
  have hcomma' : ∀ a : NumberSet, ∀ item ∈ a.elements.map name, ',' ∉ item := by
    intro a item hitem
    obtain ⟨n, -, rfl⟩ := List.mem_map.1 hitem
    exact hcomma n
  have hrow := namesInARow_injective (by simpa using hs.1) (by simpa using ht.1) (hcomma' s) (hcomma' t) h
  exact eq_of_names_eq bound hnames hs.2 ht.2 hrow

theorem comma_not_mem_weekdayName (n : Nat) : ',' ∉ weekdayName n := by
  unfold weekdayName
  split <;> decide

theorem comma_not_mem_monthName (n : Nat) : ',' ∉ monthName n := by
  unfold monthName
  split <;> decide

/-! ### Days of the month -/

namespace MonthDays

variable {s t : MonthDays} {name : List Char} {c : Char}

theorem mem_dayNames : name ∈ s.dayNames ↔ (∃ day ∈ s.days, decimal day = name) ∨
    s.last = true ∧ name = "last".toList ∨ s.secondToLast = true ∧ name = "second-to-last".toList := by
  cases hlast : s.last <;> cases hsecond : s.secondToLast <;> simp [dayNames, hlast, hsecond] <;> rfl

/-- No number is written with letters. -/
theorem decimal_ne (word : List Char) (h : word.all Char.isDigit = false) (n : Nat) : decimal n ≠ word := by
  rintro rfl
  rw [List.all_eq_true.2 fun _ hc => isDigit_of_mem_decimal hc] at h
  exact Bool.false_ne_true h.symm

theorem decimal_mem_dayNames {n : Nat} : decimal n ∈ s.dayNames ↔ n ∈ s.days := by
  have hlast := decimal_ne "last".toList (by decide) n
  have hsecond := decimal_ne "second-to-last".toList (by decide) n
  simp only [mem_dayNames, decimal_injective.eq_iff, exists_eq_right, hlast, hsecond, and_false, or_false]

theorem last_mem_dayNames : "last".toList ∈ s.dayNames ↔ s.last = true := by
  have hnumber := decimal_ne "last".toList (by decide)
  have hsecond : "last".toList ≠ "second-to-last".toList := by decide
  simp only [mem_dayNames, hnumber, hsecond, and_false, exists_false, false_or, or_false, and_true]

theorem secondToLast_mem_dayNames : "second-to-last".toList ∈ s.dayNames ↔ s.secondToLast = true := by
  have hnumber := decimal_ne "second-to-last".toList (by decide)
  have hlast : "second-to-last".toList ≠ "last".toList := by decide
  simp only [mem_dayNames, hnumber, hlast, and_false, exists_false, false_or, and_true]

/-- **A selection of days is known by the names of the days.** -/
theorem dayNames_injective : Function.Injective dayNames := by
  intro s t h
  have hdays : s.days = t.days := by
    refine NumberSet.ext_mem fun n => ?_
    rw [← decimal_mem_dayNames, h, decimal_mem_dayNames]
  have hlast : s.last = t.last := by rw [Bool.eq_iff_iff, ← last_mem_dayNames, h, last_mem_dayNames]
  have hsecond : s.secondToLast = t.secondToLast := by
    rw [Bool.eq_iff_iff, ← secondToLast_mem_dayNames, h, secondToLast_mem_dayNames]
  cases s
  cases t
  cases hdays
  cases hlast
  cases hsecond
  rfl

/-- The names of days are written with digits and a few letters. -/
theorem mem_of_mem_dayNames (h : name ∈ s.dayNames) (hc : c ∈ name) :
    c.isDigit = true ∨ c ∈ "second-to-last".toList := by
  rcases mem_dayNames.1 h with ⟨day, -, rfl⟩ | ⟨-, rfl⟩ | ⟨-, rfl⟩
  · exact .inl (isDigit_of_mem_decimal hc)
  · have hend : "second-to-last".toList = "second-to-".toList ++ "last".toList := by decide
    rw [hend]
    exact .inr (List.mem_append_right _ hc)
  · exact .inr hc

theorem comma_not_mem_of_mem_dayNames (h : name ∈ s.dayNames) : ',' ∉ name := by
  intro hc
  rcases mem_of_mem_dayNames h hc with hdigit | hletter
  · exact absurd hdigit (by decide)
  · exact absurd hletter (by decide)

end MonthDays

/-! ### Descriptions -/

namespace Rule

theorem describeChars_daily (n : Nat) : (daily n).describeChars =
    if n = 1 then "every day".toList else "every ".toList ++ decimal n ++ " days".toList := rfl

theorem describeChars_weekly (weekdays : NumberSet) : (weekly weekdays).describeChars =
    "weekly on ".toList ++ namesInARow (weekdays.elements.map weekdayName) := rfl

/-- The end of a description that names the months; all months are passed over. -/
def monthsPart (months : NumberSet) : List Char :=
  if months.size = 12 then [] else " in ".toList ++ namesInARow (months.elements.map monthName)

theorem describeChars_monthly (days : MonthDays) (months : NumberSet) :
    (monthly days months).describeChars =
      "monthly on day ".toList ++ (namesInARow days.dayNames ++ monthsPart months) :=
  List.append_assoc ..

/-- The first letter of the description of a kind of rule. -/
def firstLetter : Rule → Char
  | .daily _ => 'e'
  | .weekly _ => 'w'
  | .monthly _ _ => 'm'
  | .yearly => 'e'

theorem head?_describeChars (r : Rule) : r.describeChars.head? = some r.firstLetter := by
  have hhead : ∀ {word rest : List Char} {c : Char}, word.head? = some c → (word ++ rest).head? = some c := by
    intro word rest c h
    rw [List.head?_append, h, Option.some_or]
  cases r with
  | daily interval =>
    rw [describeChars_daily]
    split
    · exact (show "every day".toList.head? = some 'e' by decide)
    · rw [List.append_assoc]
      exact hhead (show "every ".toList.head? = some 'e' by decide)
  | weekly weekdays =>
    rw [describeChars_weekly]
    exact hhead (show "weekly on ".toList.head? = some 'w' by decide)
  | monthly days months =>
    rw [describeChars_monthly]
    exact hhead (show "monthly on day ".toList.head? = some 'm' by decide)
  | yearly => decide

/-- A daily rule ends with "day" or "days", and no yearly one does. -/
theorem getLast?_describeChars_daily (n : Nat) :
    (daily n).describeChars.getLast? = if n = 1 then some 'y' else some 's' := by
  have hend : " days".toList.getLast? = some 's' := by decide
  rw [describeChars_daily]
  split
  · decide
  · rw [List.getLast?_append, hend, Option.some_or]

theorem daily_eq_of_describeChars_eq {m n : Nat} (h : (daily m).describeChars = (daily n).describeChars) :
    m = n := by
  have hend := congrArg List.getLast? h
  rw [getLast?_describeChars_daily, getLast?_describeChars_daily] at hend
  by_cases hm : m = 1
  · by_cases hn : n = 1
    · rw [hm, hn]
    · rw [if_pos hm, if_neg hn] at hend
      exact absurd hend (by decide)
  · by_cases hn : n = 1
    · rw [if_neg hm, if_pos hn] at hend
      exact absurd hend (by decide)
    · rw [describeChars_daily, describeChars_daily, if_neg hm, if_neg hn, List.append_left_inj,
        List.append_right_inj] at h
      exact decimal_injective h

theorem weekly_eq_of_describeChars_eq {a b : NumberSet} (ha : (weekly a).WellFormed) (hb : (weekly b).WellFormed)
    (h : (weekly a).describeChars = (weekly b).describeChars) : a = b := by
  rw [describeChars_weekly, describeChars_weekly, List.append_right_inj] at h
  exact NumberSet.eq_of_row_eq 7 (by decide) comma_not_mem_weekdayName ha hb h

/-! ### Monthly rules -/

/-- The names of days do not reach as far as to the word in front of the months. -/
theorem i_not_mem_dayNames (s : MonthDays) : 'i' ∉ namesInARow s.dayNames := by
  intro h
  rcases mem_namesInARow h with (hsign | hsign) | ⟨name, hname, hc⟩
  · exact absurd hsign (by decide)
  · exact absurd hsign (by decide)
  · rcases MonthDays.mem_of_mem_dayNames hname hc with hdigit | hletter
    · exact absurd hdigit (by decide)
    · exact absurd hletter (by decide)

theorem dayNames_ne_nil {days : MonthDays} {months : NumberSet} (h : (monthly days months).WellFormed) :
    days.dayNames ≠ [] := by
  obtain ⟨-, -, hlast | hsecond | ⟨day, hday, -⟩⟩ := h
  · exact List.ne_nil_of_mem (MonthDays.last_mem_dayNames.2 hlast)
  · exact List.ne_nil_of_mem (MonthDays.secondToLast_mem_dayNames.2 hsecond)
  · exact List.ne_nil_of_mem (MonthDays.decimal_mem_dayNames.2 hday)

/-- The months are known by the end of a description. -/
theorem monthsPart_injective {a b : NumberSet} (ha : a.elements ≠ [] ∧ ∀ n ∈ a, 1 ≤ n ∧ n ≤ 12)
    (hb : b.elements ≠ [] ∧ ∀ n ∈ b, 1 ≤ n ∧ n ≤ 12) (h : monthsPart a = monthsPart b) : a = b := by
  rw [monthsPart, monthsPart] at h
  by_cases hall : a.size = 12
  · by_cases hall' : b.size = 12
    · rw [NumberSet.eq_allMonths ha.2 hall, NumberSet.eq_allMonths hb.2 hall']
    · rw [if_pos hall, if_neg hall'] at h
      exact absurd h (by simp)
  · by_cases hall' : b.size = 12
    · rw [if_neg hall, if_pos hall'] at h
      exact absurd h (by simp)
    · rw [if_neg hall, if_neg hall', List.append_right_inj] at h
      exact NumberSet.eq_of_row_eq 12 (by decide) comma_not_mem_monthName ha hb h

/-- The end of a description is empty or begins with the word in front of the months. -/
theorem monthsPart_cases (months : NumberSet) :
    monthsPart months = [] ∨ ∃ rest, monthsPart months = [' '] ++ 'i' :: rest := by
  have hword : " in ".toList = [' '] ++ 'i' :: ['n', ' '] := by decide
  rw [monthsPart]
  split
  · exact .inl rfl
  · rw [hword]
    exact .inr ⟨_, rfl⟩

/-- A row of days and the months behind it are told apart by the word between them. -/
theorem dayNames_and_monthsPart {s t : MonthDays} {a b : NumberSet}
    (h : namesInARow s.dayNames ++ monthsPart a = namesInARow t.dayNames ++ monthsPart b) :
    namesInARow s.dayNames = namesInARow t.dayNames ∧ monthsPart a = monthsPart b := by
  have hi : ∀ s : MonthDays, 'i' ∉ namesInARow s.dayNames ++ [' '] := by
    intro s hmem
    rcases List.mem_append.1 hmem with hday | hspace
    · exact i_not_mem_dayNames s hday
    · exact absurd hspace (by decide)
  rcases monthsPart_cases a with ha | ⟨rest, ha⟩ <;> rcases monthsPart_cases b with hb | ⟨rest', hb⟩
  · rw [ha, hb, List.append_nil, List.append_nil] at h
    exact ⟨h, ha.trans hb.symm⟩
  · rw [ha, hb, List.append_nil] at h
    exact absurd (h ▸ by simp) (i_not_mem_dayNames s)
  · rw [ha, hb, List.append_nil] at h
    exact absurd (h ▸ by simp) (i_not_mem_dayNames t)
  · rw [ha, hb, ← List.append_assoc, ← List.append_assoc] at h
    obtain ⟨hrow, rfl⟩ := append_cons_inj (hi s) (hi t) h
    exact ⟨List.append_cancel_right hrow, ha.trans hb.symm⟩

theorem monthly_eq_of_describeChars_eq {s t : MonthDays} {a b : NumberSet} (hs : (monthly s a).WellFormed)
    (ht : (monthly t b).WellFormed) (h : (monthly s a).describeChars = (monthly t b).describeChars) :
    s = t ∧ a = b := by
  rw [describeChars_monthly, describeChars_monthly, List.append_right_inj] at h
  obtain ⟨hrow, hmonths⟩ := dayNames_and_monthsPart h
  have hnames := namesInARow_injective (dayNames_ne_nil hs) (dayNames_ne_nil ht)
    (fun _ => MonthDays.comma_not_mem_of_mem_dayNames) (fun _ => MonthDays.comma_not_mem_of_mem_dayNames) hrow
  exact ⟨MonthDays.dayNames_injective hnames, monthsPart_injective hs.2.1 ht.2.1 hmonths⟩

/-! ### All rules -/

theorem describeChars_daily_ne_yearly (n : Nat) : (daily n).describeChars ≠ yearly.describeChars := by
  intro h
  have hend := getLast?_describeChars_daily n
  rw [h] at hend
  split at hend
  · exact absurd hend (by decide)
  · exact absurd hend (by decide)

/-- **A well-formed rule is known by its description.** -/
theorem eq_of_describe_eq {r s : Rule} (hr : r.WellFormed) (hs : s.WellFormed) (h : r.describe = s.describe) :
    r = s := by
  have hchars : r.describeChars = s.describeChars := String.ofList_injective h
  have hfirst : r.firstLetter = s.firstLetter := by
    rw [← Option.some.injEq, ← head?_describeChars, ← head?_describeChars, hchars]
  cases r with
  | daily m =>
    cases s with
    | daily n => exact congrArg daily (daily_eq_of_describeChars_eq hchars)
    | yearly => exact absurd hchars (describeChars_daily_ne_yearly m)
    | weekly | monthly => exact absurd hfirst (by simp [firstLetter])
  | weekly a =>
    cases s with
    | weekly b => exact congrArg weekly (weekly_eq_of_describeChars_eq hr hs hchars)
    | daily | monthly | yearly => exact absurd hfirst (by simp [firstLetter])
  | monthly t a =>
    cases s with
    | monthly t' b =>
      obtain ⟨rfl, rfl⟩ := monthly_eq_of_describeChars_eq hr hs hchars
      rfl
    | daily | weekly | yearly => exact absurd hfirst (by simp [firstLetter])
  | yearly =>
    cases s with
    | daily n => exact absurd hchars.symm (describeChars_daily_ne_yearly n)
    | yearly => rfl
    | weekly | monthly => exact absurd hfirst (by simp [firstLetter])

/-! ### The characters of descriptions -/

/-- The characters of descriptions: letters, digits, spaces, commas and hyphens. -/
def isDescriptive (c : Char) : Bool := c.isAlphanum || c == ' ' || c == ',' || c == '-'

theorem isDescriptive_of_isDigit {c : Char} (h : c.isDigit = true) : isDescriptive c = true := by
  rw [isDescriptive, Char.isAlphanum, h, Bool.or_true, Bool.true_or, Bool.true_or, Bool.true_or]

theorem all_namesInARow {names : List (List Char)} (h : ∀ name ∈ names, name.all isDescriptive = true) :
    (namesInARow names).all isDescriptive = true := by
  refine List.all_eq_true.2 fun c hc => ?_
  rcases mem_namesInARow hc with (rfl | rfl) | ⟨name, hname, hc⟩
  · rfl
  · rfl
  · exact List.all_eq_true.1 (h name hname) c hc

theorem all_weekdayName (n : Nat) : (weekdayName n).all isDescriptive = true := by
  unfold weekdayName
  split <;> decide

theorem all_monthName (n : Nat) : (monthName n).all isDescriptive = true := by
  unfold monthName
  split <;> decide

theorem all_dayName {s : MonthDays} {name : List Char} (h : name ∈ s.dayNames) :
    name.all isDescriptive = true := by
  refine List.all_eq_true.2 fun c hc => ?_
  rcases MonthDays.mem_of_mem_dayNames h hc with hdigit | hletter
  · exact isDescriptive_of_isDigit hdigit
  · have hword : "second-to-last".toList.all isDescriptive = true := by decide
    exact List.all_eq_true.1 hword c hletter

theorem all_names {name : Nat → List Char} (h : ∀ n, (name n).all isDescriptive = true) (numbers : List Nat) :
    (namesInARow (numbers.map name)).all isDescriptive = true := by
  refine all_namesInARow fun item hitem => ?_
  obtain ⟨n, -, rfl⟩ := List.mem_map.1 hitem
  exact h n

/-- **No other sign stands in a description**, whatever the rule. -/
theorem all_describeChars (r : Rule) : r.describeChars.all isDescriptive = true := by
  cases r with
  | daily n =>
    rw [describeChars_daily]
    split
    · decide
    · have hdigits : (decimal n).all isDescriptive = true :=
        List.all_eq_true.2 fun c hc => isDescriptive_of_isDigit (isDigit_of_mem_decimal hc)
      rw [List.all_append, List.all_append, hdigits]
      decide
  | weekly weekdays =>
    rw [describeChars_weekly, List.all_append, all_names all_weekdayName]
    decide
  | monthly days months =>
    have hmonths : (monthsPart months).all isDescriptive = true := by
      rw [monthsPart]
      split
      · rfl
      · rw [List.all_append, all_names all_monthName]
        decide
    rw [describeChars_monthly, List.all_append, List.all_append, all_namesInARow fun _ => all_dayName, hmonths]
    decide
  | yearly => decide

end Rule

end Agenda
