import Agenda.Proofs.Rule.Satisfiable
import Agenda.Proofs.Text.Tokens

/-!
# The grammar of rules

Which words name which rule is said here without reading them: the kind, the numbers and lists of numbers that
follow it, and what they have to satisfy.  The reader accepts exactly these texts, gives exactly the rule that is
named, and tells from the words alone which kind of error it is otherwise.

* `IsNumberList`, `Rule.Names` — the grammar.
* `RuleField.readList_eq_ok_iff` — lists of numbers are read by the grammar.
* `Rule.ofWords_eq_ok_iff` — and so are rules.
* `Rule.RefusedFor`, `Rule.refusedFor_of_ofWords` — the errors, by the words they are about.
* `Rule.parse_accepts_grammar` — both for the words of a text.
-/

namespace Agenda

open Outcome Text

/-- A word is a list of numbers: one after the other, with commas between them. -/
def IsNumberList (word : List Char) (numbers : List Int) : Prop :=
  ∃ items : List (List Char), items ≠ [] ∧ word = commaSeparated items ∧ List.Forall₂ IsNumber items numbers

/-- A set has exactly the numbers of a list. -/
def NumberSet.IsSetOf (s : NumberSet) (numbers : List Int) : Prop := ∀ n : Nat, n ∈ s ↔ (n : Int) ∈ numbers

/-- A selection has exactly the days of a list, in which -1 stands for the last day and -2 for the one before. -/
structure MonthDays.IsSelectionOf (s : MonthDays) (selectors : List Int) : Prop where
  days : s.days.IsSetOf selectors
  last : s.last = true ↔ -1 ∈ selectors
  secondToLast : s.secondToLast = true ↔ -2 ∈ selectors

/-- The latest day that one of these months ever has. -/
def latestDay (months : NumberSet) : Nat :=
  if ∀ n ∈ months.elements, n = 2 then 29
  else if ∀ n ∈ months.elements, n ∈ [2, 4, 6, 9, 11] then 30
  else 31

namespace Rule

/-- The months that the words behind a list of days name.  Without any word all months are meant, and words behind
a list of months are passed over. -/
inductive NamesMonths : List (List Char) → NumberSet → Prop
  | all : NamesMonths [] allMonths
  | list {word : List Char} {later : List (List Char)} {numbers : List Int} {months : NumberSet} :
      IsNumberList word numbers → (∀ n ∈ numbers, 1 ≤ n ∧ n ≤ 12) → months.IsSetOf numbers →
      NamesMonths (word :: later) months

/-- The rule that words name. -/
inductive Names : List (List Char) → Rule → Prop
  | daily {word : List Char} {n : Nat} : IsNumber word n → 1 ≤ n → n ≤ 400 → Names [['d'], word] (.daily n)
  | weekly {list : List Char} {later : List (List Char)} {numbers : List Int} {weekdays : NumberSet} :
      IsNumberList list numbers → (∀ n ∈ numbers, 1 ≤ n ∧ n ≤ 7) → weekdays.IsSetOf numbers →
      Names (['w'] :: list :: later) (.weekly weekdays)
  | monthly {list : List Char} {rest : List (List Char)} {selectors : List Int} {days : MonthDays}
      {months : NumberSet} :
      IsNumberList list selectors → (∀ n ∈ selectors, n = -1 ∨ n = -2 ∨ 1 ≤ n ∧ n ≤ 31) →
      days.IsSelectionOf selectors → NamesMonths rest months →
      (-1 ∈ selectors ∨ -2 ∈ selectors ∨ ∃ n ∈ selectors, 1 ≤ n ∧ n ≤ latestDay months) →
      Names (['m'] :: list :: rest) (.monthly days months)
  | yearly : Names [['y']] .yearly

end Rule

/-! ### Numbers and lists of numbers -/

namespace RuleField

variable {field : RuleField} {inRange : Int → Bool} {word : List Char} {numbers : List Int} {n : Int}

theorem read_eq_ok_iff : field.read word = .ok n ↔ IsNumber word n := by
  rw [isNumber_iff, read]
  cases signed64? word <;> simp

theorem readItem_eq_ok_iff : field.readItem inRange word = .ok n ↔ IsNumber word n ∧ inRange n = true := by
  rw [readItem, bind_eq_ok_iff]
  constructor
  · rintro ⟨m, hm, h⟩
    split at h
    · rw [pure_eq_ok_iff] at h
      subst h
      exact ⟨read_eq_ok_iff.1 hm, ‹_›⟩
    · exact absurd h throw_ne_ok
  · rintro ⟨hn, hrange⟩
    exact ⟨n, read_eq_ok_iff.2 hn, by rw [if_pos hrange]; rfl⟩

end RuleField

/-- There is no comma in a number. -/
theorem comma_not_mem {items : List (List Char)} {numbers : List Int}
    (h : List.Forall₂ IsNumber items numbers) : ∀ item ∈ items, ',' ∉ item := by
  induction h with
  | nil => simp
  | cons hnumber _ ih =>
    intro item hitem hmem
    rcases List.mem_cons.1 hitem with rfl | hitem
    · rcases hnumber.mem hmem with h | h | h <;> exact absurd h (by decide)
    · exact ih item hitem hmem

/-- The items of a list are what its commas separate. -/
theorem isNumberList_iff {word : List Char} {numbers : List Int} :
    IsNumberList word numbers ↔ List.Forall₂ IsNumber (word.splitOn ',') numbers := by
  constructor
  · rintro ⟨items, hne, rfl, hitems⟩
    rw [commaSeparated, List.splitOn_intercalate ',' (comma_not_mem hitems) hne]
    exact hitems
  · intro h
    exact ⟨word.splitOn ',', List.splitOnP_ne_nil _ _, (List.intercalate_splitOn ',').symm, h⟩

/-- **Lists of numbers are read by the grammar.** -/
theorem RuleField.readList_eq_ok_iff {field : RuleField} {inRange : Int → Bool} {word : List Char}
    {numbers : List Int} :
    field.readList inRange word = .ok numbers ↔
      IsNumberList word numbers ∧ ∀ n ∈ numbers, inRange n = true := by
  rw [isNumberList_iff]
  constructor
  · intro h
    exact ⟨(mapM_eq_ok_iff.1 h).imp fun _ _ hitem => (readItem_eq_ok_iff.1 hitem).1, (readList_spec h).2⟩
  · rintro ⟨hitems, hrange⟩
    refine mapM_eq_ok_iff.2 ?_
    generalize word.splitOn ',' = items at hitems
    induction hitems with
    | nil => exact .nil
    | cons hnumber _ ih =>
      refine .cons (readItem_eq_ok_iff.2 ⟨hnumber, hrange _ List.mem_cons_self⟩) (ih fun n hn => ?_)
      exact hrange n (List.mem_cons_of_mem _ hn)

theorem RuleField.readList_upTo_eq_ok_iff {field : RuleField} {bound : Int} {word : List Char}
    {numbers : List Int} :
    field.readList (fun n => 1 ≤ n && n ≤ bound) word = .ok numbers ↔
      IsNumberList word numbers ∧ ∀ n ∈ numbers, 1 ≤ n ∧ n ≤ bound := by
  rw [readList_eq_ok_iff]
  simp only [Bool.and_eq_true, decide_eq_true_eq]

/-! ### Sets and selections -/

theorem NumberSet.isSetOf_iff {s : NumberSet} {numbers : List Int} {bound : Int}
    (h : ∀ n ∈ numbers, 1 ≤ n ∧ n ≤ bound) : s.IsSetOf numbers ↔ s = .ofList (numbers.map Int.toNat) := by
  have hmem : ∀ n : Nat, n ∈ NumberSet.ofList (numbers.map Int.toNat) ↔ (n : Int) ∈ numbers := by
    intro n
    rw [mem_ofList, List.mem_map]
    constructor
    · rintro ⟨m, hm, rfl⟩
      have hpos := h m hm
      rwa [Int.toNat_of_nonneg (by omega)]
    · exact fun hn => ⟨n, hn, rfl⟩
  constructor
  · exact fun hs => ext_mem fun n => (hs n).trans (hmem n).symm
  · rintro rfl
    exact hmem

theorem MonthDays.isSelectionOf_iff {s : MonthDays} {selectors : List Int} (h : 0 ∉ selectors) :
    s.IsSelectionOf selectors ↔ s = .ofSelectors selectors := by
  have hself : (ofSelectors selectors).IsSelectionOf selectors := by
    refine ⟨fun n => ?_, List.contains_iff_mem, List.contains_iff_mem⟩
    rw [mem_days_ofSelectors]
    constructor
    · exact fun hn => hn.2
    · exact fun hn => ⟨Nat.pos_of_ne_zero fun hzero => h (by rwa [hzero] at hn), hn⟩
  constructor
  · intro hs
    have hdays : s.days = (ofSelectors selectors).days :=
      NumberSet.ext_mem fun n => (hs.days n).trans (hself.days n).symm
    have hlast : s.last = (ofSelectors selectors).last :=
      Bool.eq_iff_iff.2 (hs.last.trans hself.last.symm)
    have hsecond : s.secondToLast = (ofSelectors selectors).secondToLast :=
      Bool.eq_iff_iff.2 (hs.secondToLast.trans hself.secondToLast.symm)
    cases s
    simp_all
  · rintro rfl
    exact hself

/-! ### The latest day -/

theorem longestMonth_of_mem {month : Nat} (h : month ∈ [4, 6, 9, 11]) : longestMonth month = 30 := by
  simp only [List.mem_cons, List.not_mem_nil, or_false] at h
  rcases h with rfl | rfl | rfl | rfl <;> rfl

theorem longestMonth_of_not_mem {month : Nat} (h : month ∉ [2, 4, 6, 9, 11]) : longestMonth month = 31 := by
  simp only [List.mem_cons, List.not_mem_nil, or_false, not_or] at h
  unfold longestMonth
  split <;> simp_all

/-- A day occurs in one of the months exactly if it is no later than their latest day. -/
theorem exists_le_longestMonth_iff {months : NumberSet} (hne : months.elements ≠ []) {day : Nat} :
    (∃ month ∈ months, day ≤ longestMonth month) ↔ day ≤ latestDay months := by
  unfold latestDay
  split
  · -- February alone
    rename_i honly
    constructor
    · rintro ⟨month, hmonth, hle⟩
      rwa [honly month hmonth] at hle
    · intro hle
      obtain ⟨month, hmonth⟩ := List.exists_mem_of_ne_nil _ hne
      exact ⟨month, hmonth, by rwa [honly month hmonth]⟩
  · rename_i hother
    simp only [not_forall] at hother
    obtain ⟨month, hmonth, hne2⟩ := hother
    split
    · -- no month of 31 days, but one of 30
      rename_i hshort
      have hlength : ∀ n ∈ months, n ≠ 2 → longestMonth n = 30 := fun n hn hn2 =>
        longestMonth_of_mem ((List.mem_cons.1 (hshort n hn)).resolve_left hn2)
      constructor
      · rintro ⟨n, hn, hle⟩
        by_cases hn2 : n = 2
        · rw [hn2, show longestMonth 2 = 29 from rfl] at hle
          omega
        · rwa [hlength n hn hn2] at hle
      · exact fun hle => ⟨month, hmonth, by rwa [hlength month hmonth hne2]⟩
    · -- a month of 31 days
      rename_i hlong
      simp only [not_forall] at hlong
      obtain ⟨longest, hlongest, hnot⟩ := hlong
      constructor
      · rintro ⟨n, -, hle⟩
        have hmost := monthLength_le 2024 n
        rw [monthLength_of_isLeapYear rfl] at hmost
        exact hle.trans hmost
      · exact fun hle => ⟨longest, hlongest, by rwa [longestMonth_of_not_mem hnot]⟩

/-! ### Rules -/

namespace Rule

variable {parameters rest ws : List (List Char)} {rule : Rule} {months : NumberSet} {e : RuleError}

theorem monthsOf_eq_ok_iff : monthsOf rest = .ok months ↔ NamesMonths rest months := by
  constructor
  · intro h
    match rest, h with
    | [], h =>
      rw [monthsOf, pure_eq_ok_iff] at h
      subst h
      exact .all
    | list :: _, h =>
      obtain ⟨numbers, hread, hset⟩ := bind_eq_ok_iff.1 h
      rw [pure_eq_ok_iff] at hset
      obtain ⟨hlist, hrange⟩ := RuleField.readList_upTo_eq_ok_iff.1 hread
      exact .list hlist hrange ((NumberSet.isSetOf_iff hrange).2 hset.symm)
  · intro h
    cases h with
    | all => rfl
    | list hlist hrange hset =>
      obtain rfl := (NumberSet.isSetOf_iff hrange).1 hset
      exact bind_eq_ok_iff.2 ⟨_, RuleField.readList_upTo_eq_ok_iff.2 ⟨hlist, hrange⟩, rfl⟩

theorem dailyOf_eq_ok_iff : dailyOf parameters = .ok rule ↔ Names (['d'] :: parameters) rule := by
  constructor
  · intro h
    match parameters, h with
    | [word], h =>
      obtain ⟨n, hread, hn⟩ := bind_eq_ok_iff.1 h
      split at hn
      · rename_i hrange
        rw [pure_eq_ok_iff] at hn
        subst hn
        have hnumber := RuleField.read_eq_ok_iff.1 (mapError_eq_ok_iff.1 hread)
        have hcast : (n.toNat : Int) = n := Int.toNat_of_nonneg (by omega)
        have hle : n ≤ 400 := hrange.2
        exact .daily (hcast ▸ hnumber) (by omega) (by omega)
      · exact absurd hn throw_ne_ok
  · intro h
    cases h with
    | daily hnumber hpos hle =>
      refine bind_eq_ok_iff.2 ⟨_, mapError_eq_ok_iff.2 (RuleField.read_eq_ok_iff.2 hnumber), ?_⟩
      rw [if_pos ⟨by omega, by rw [greatestInterval]; omega⟩]
      rfl

theorem weeklyOf_eq_ok_iff : weeklyOf parameters = .ok rule ↔ Names (['w'] :: parameters) rule := by
  constructor
  · intro h
    match parameters, h with
    | list :: _, h =>
      obtain ⟨numbers, hread, hrule⟩ := bind_eq_ok_iff.1 h
      rw [pure_eq_ok_iff] at hrule
      subst hrule
      obtain ⟨hlist, hrange⟩ := RuleField.readList_upTo_eq_ok_iff.1 (mapError_eq_ok_iff.1 hread)
      exact .weekly hlist hrange ((NumberSet.isSetOf_iff hrange).2 rfl)
  · intro h
    cases h with
    | weekly hlist hrange hset =>
      obtain rfl := (NumberSet.isSetOf_iff hrange).1 hset
      refine bind_eq_ok_iff.2 ⟨_, mapError_eq_ok_iff.2 ?_, rfl⟩
      exact RuleField.readList_upTo_eq_ok_iff.2 ⟨hlist, hrange⟩

/-- The day that a selection needs in one of the months, by the numbers that make up the selection. -/
theorem reaches_ofSelectors_iff {selectors : List Int} (hne : months.elements ≠ []) :
    (MonthDays.ofSelectors selectors).reaches months = true ↔
      -1 ∈ selectors ∨ -2 ∈ selectors ∨ ∃ n ∈ selectors, 1 ≤ n ∧ n ≤ latestDay months := by
  rw [MonthDays.reaches_iff]
  refine or_congr List.contains_iff_mem (or_congr List.contains_iff_mem ?_)
  simp only [exists_le_longestMonth_iff hne, MonthDays.mem_days_ofSelectors]
  constructor
  · rintro ⟨day, ⟨hpos, hday⟩, hle⟩
    exact ⟨day, hday, by omega, by omega⟩
  · rintro ⟨n, hn, hpos, hle⟩
    have hcast : (n.toNat : Int) = n := Int.toNat_of_nonneg (by omega)
    exact ⟨n.toNat, ⟨by omega, hcast.symm ▸ hn⟩, by omega⟩

theorem monthlyOf_eq_ok_iff : monthlyOf parameters = .ok rule ↔ Names (['m'] :: parameters) rule := by
  have hfields : ∀ n : Int, (n == -1 || n == -2 || (decide (1 ≤ n) && decide (n ≤ 31))) = true ↔
      n = -1 ∨ n = -2 ∨ 1 ≤ n ∧ n ≤ 31 := by
    intro n
    simp only [Bool.or_eq_true, Bool.and_eq_true, decide_eq_true_eq, beq_iff_eq, or_assoc]
  constructor
  · intro h
    match parameters, h with
    | list :: rest, h =>
      obtain ⟨selectors, hread, h⟩ := bind_eq_ok_iff.1 (mapError_eq_ok_iff.1 h)
      obtain ⟨months, hmonths, h⟩ := bind_eq_ok_iff.1 h
      obtain ⟨⟨⟩, hreach, h⟩ := bind_eq_ok_iff.1 h
      rw [pure_eq_ok_iff] at h
      subst h
      obtain ⟨hlist, hrange⟩ := RuleField.readList_eq_ok_iff.1 hread
      simp only [hfields] at hrange
      have hzero : 0 ∉ selectors := fun hmem => by have := hrange 0 hmem; omega
      rw [MonthDays.checkReach] at hreach
      split at hreach
      · rename_i hreaches
        exact .monthly hlist hrange ((MonthDays.isSelectionOf_iff hzero).2 rfl) (monthsOf_eq_ok_iff.1 hmonths)
          ((reaches_ofSelectors_iff (months_of_monthsOf hmonths).1).1 hreaches)
      · exact absurd hreach throw_ne_ok
  · intro h
    cases h with
    | monthly hlist hrange hdays hmonths hreach =>
      rename_i selectors days months
      have hzero : 0 ∉ selectors := fun hmem => by have := hrange 0 hmem; omega
      obtain rfl := (MonthDays.isSelectionOf_iff hzero).1 hdays
      have hmonths := monthsOf_eq_ok_iff.2 hmonths
      have hcheck : (MonthDays.ofSelectors selectors).checkReach months = .ok () :=
        if_pos ((reaches_ofSelectors_iff (months_of_monthsOf hmonths).1).2 hreach)
      refine mapError_eq_ok_iff.2 (bind_eq_ok_iff.2 ⟨selectors, RuleField.readList_eq_ok_iff.2 ⟨hlist, ?_⟩, ?_⟩)
      · simpa only [hfields] using hrange
      · exact bind_eq_ok_iff.2 ⟨_, hmonths, bind_eq_ok_iff.2 ⟨(), hcheck, rfl⟩⟩

theorem yearlyOf_eq_ok_iff : yearlyOf parameters = .ok rule ↔ Names (['y'] :: parameters) rule := by
  constructor
  · intro h
    match parameters, h with
    | [], h =>
      rw [yearlyOf, pure_eq_ok_iff] at h
      subst h
      exact .yearly
  · intro h
    cases h
    rfl

/-- The words that say of which kind a rule is. -/
def kindWords : List (List Char) := [['d'], ['w'], ['m'], ['y']]

theorem mem_kindWords {kind : List Char} :
    kind ∈ kindWords ↔ kind = ['d'] ∨ kind = ['w'] ∨ kind = ['m'] ∨ kind = ['y'] := by
  simp [kindWords]

theorem ofWords_of_not_mem_kindWords {kind : List Char} (h : kind ∉ kindWords) :
    ofWords (kind :: parameters) = .error (.unsupportedKind (String.ofList kind)) := by
  rw [mem_kindWords, not_or, not_or, not_or] at h
  obtain ⟨hd, hw, hm, hy⟩ := h
  rw [ofWords, if_neg hd, if_neg hw, if_neg hm, if_neg hy]
  rfl

/-- Words that name a rule begin with a kind. -/
theorem Names.exists_kind (h : Names ws rule) : ∃ kind parameters, ws = kind :: parameters ∧ kind ∈ kindWords := by
  cases h <;> exact ⟨_, _, rfl, by decide⟩

/-- **Rules are read by the grammar.** -/
theorem ofWords_eq_ok_iff : ofWords ws = .ok rule ↔ Names ws rule := by
  match ws with
  | [] => exact ⟨fun h => absurd h throw_ne_ok, fun h => nomatch h⟩
  | kind :: parameters =>
    by_cases hkind : kind ∈ kindWords
    · rcases mem_kindWords.1 hkind with rfl | rfl | rfl | rfl
      · exact dailyOf_eq_ok_iff
      · exact weeklyOf_eq_ok_iff
      · exact monthlyOf_eq_ok_iff
      · exact yearlyOf_eq_ok_iff
    · rw [ofWords_of_not_mem_kindWords hkind]
      refine ⟨fun h => absurd h (by simp), fun h => ?_⟩
      obtain ⟨_, _, heq, hmem⟩ := h.exists_kind
      exact absurd ((List.cons.inj heq).1 ▸ hmem) hkind

/-! ### Errors -/

/-- What is wrong with words that name no rule. -/
inductive RefusedFor : List (List Char) → RuleError → Prop
  /-- There is no word. -/
  | empty : RefusedFor [] .empty
  /-- The first word is no kind. -/
  | unsupportedKind {kind : List Char} {parameters : List (List Char)} :
      kind ∉ kindWords → RefusedFor (kind :: parameters) (.unsupportedKind (String.ofList kind))
  /-- A kind that needs parameters stands alone. -/
  | missingParameter {kind : List Char} :
      kind ∈ kindWords → kind ≠ ['y'] → RefusedFor [kind] (.missingParameter (String.ofList kind))
  /-- The words behind a kind are not those of a rule. -/
  | invalidParameter {kind first : List Char} {rest : List (List Char)} {fault : ParameterFault} :
      kind ∈ kindWords → (∀ rule, ¬ Names (kind :: first :: rest) rule) →
      RefusedFor (kind :: first :: rest) (.invalidParameter fault)

theorem exists_fault_of_dailyOf {first : List Char} (h : dailyOf (first :: rest) = .error e) :
    ∃ fault, e = .invalidParameter fault := by
  match rest, h with
  | [], h =>
    rcases bind_eq_error_iff.1 h with hread | ⟨n, -, hn⟩
    · obtain ⟨fault, -, rfl⟩ := mapError_eq_error_iff.1 hread
      exact ⟨fault, rfl⟩
    · split at hn
      · exact absurd hn pure_ne_error
      · exact ⟨_, (throw_eq_error_iff.1 hn).symm⟩
  | _ :: _, h => exact ⟨_, (throw_eq_error_iff.1 h).symm⟩

theorem exists_fault_of_weeklyOf {first : List Char} (h : weeklyOf (first :: rest) = .error e) :
    ∃ fault, e = .invalidParameter fault := by
  rcases bind_eq_error_iff.1 h with hread | ⟨numbers, -, hpure⟩
  · obtain ⟨fault, -, rfl⟩ := mapError_eq_error_iff.1 hread
    exact ⟨fault, rfl⟩
  · exact absurd hpure pure_ne_error

theorem exists_fault_of_monthlyOf {first : List Char} (h : monthlyOf (first :: rest) = .error e) :
    ∃ fault, e = .invalidParameter fault := by
  obtain ⟨fault, -, rfl⟩ := mapError_eq_error_iff.1 h
  exact ⟨fault, rfl⟩

theorem exists_fault_of_yearlyOf {first : List Char} (h : yearlyOf (first :: rest) = .error e) :
    ∃ fault, e = .invalidParameter fault := ⟨_, (throw_eq_error_iff.1 h).symm⟩

/-- A kind that needs parameters is missing them when it stands alone. -/
theorem ofWords_of_kind_alone {kind : List Char} (hkind : kind ∈ kindWords) (hyearly : kind ≠ ['y']) :
    ofWords [kind] = .error (.missingParameter (String.ofList kind)) := by
  rcases mem_kindWords.1 hkind with rfl | rfl | rfl | rfl
  · rfl
  · rfl
  · rfl
  · exact absurd rfl hyearly

/-- Behind a kind only the parameters are refused. -/
theorem exists_fault_of_ofWords {kind first : List Char} (hkind : kind ∈ kindWords)
    (h : ofWords (kind :: first :: rest) = .error e) : ∃ fault, e = .invalidParameter fault := by
  rcases mem_kindWords.1 hkind with rfl | rfl | rfl | rfl
  · exact exists_fault_of_dailyOf h
  · exact exists_fault_of_weeklyOf (show weeklyOf (first :: rest) = .error e from h)
  · exact exists_fault_of_monthlyOf h
  · exact exists_fault_of_yearlyOf (show yearlyOf (first :: rest) = .error e from h)

/-- **Words are refused for what is wrong with them.** -/
theorem refusedFor_of_ofWords (h : ofWords ws = .error e) : RefusedFor ws e := by
  have hnone : ∀ rule, ¬ Names ws rule := by
    intro rule hnames
    rw [ofWords_eq_ok_iff.2 hnames] at h
    exact absurd h (by simp)
  match ws with
  | [] =>
    obtain rfl := throw_eq_error_iff.1 h
    exact .empty
  | kind :: parameters =>
    by_cases hkind : kind ∈ kindWords
    · match parameters with
      | [] =>
        -- a year needs no parameters
        have hyearly : kind ≠ ['y'] := fun heq => hnone .yearly (heq ▸ .yearly)
        rw [ofWords_of_kind_alone hkind hyearly, Except.error.injEq] at h
        subst h
        exact .missingParameter hkind hyearly
      | first :: rest =>
        obtain ⟨fault, rfl⟩ := exists_fault_of_ofWords hkind h
        exact .invalidParameter hkind hnone
    · rw [ofWords_of_not_mem_kindWords hkind, Except.error.injEq] at h
      subst h
      exact .unsupportedKind hkind

/-- Words that name no rule are refused for something. -/
theorem exists_refusedFor (h : ∀ rule, ¬ Names ws rule) : ∃ e, ofWords ws = .error e ∧ RefusedFor ws e := by
  cases hread : ofWords ws with
  | ok rule => exact absurd (ofWords_eq_ok_iff.1 hread) (h rule)
  | error e => exact ⟨e, rfl, refusedFor_of_ofWords hread⟩

/-- **The reader accepts exactly the grammar.**  It reads the maximal runs of a text that are not blank, and what
they name is what it gives; otherwise the error tells apart an empty text, a word that is no kind, a kind without
its parameters, and parameters that are not those of a rule. -/
theorem parse_accepts_grammar (text : String) :
    ∃ ws : List (List Char), (∀ cut, Runs text.toList cut ↔ cut = ws) ∧
      (∀ rule, parse text = .ok rule ↔ Names ws rule) ∧
      (parse text = .error .empty ↔ ws = []) ∧
      (∀ k, parse text = .error (.unsupportedKind k) ↔
        ∃ kind parameters, ws = kind :: parameters ∧ kind ∉ kindWords ∧ k = String.ofList kind) ∧
      (∀ k, parse text = .error (.missingParameter k) ↔
        ∃ kind ∈ kindWords, ws = [kind] ∧ kind ≠ ['y'] ∧ k = String.ofList kind) ∧
      ((∃ fault, parse text = .error (.invalidParameter fault)) ↔
        (∃ kind ∈ kindWords, ∃ first rest, ws = kind :: first :: rest) ∧ ∀ rule, ¬ Names ws rule) := by
  refine ⟨words text.toList, fun cut => runs_iff, fun rule => ofWords_eq_ok_iff, ?_⟩
  show (ofWords _ = _ ↔ _) ∧ (∀ k, ofWords _ = _ ↔ _) ∧ (∀ k, ofWords _ = _ ↔ _) ∧
    ((∃ fault, ofWords _ = _) ↔ _)
  generalize words text.toList = ws
  refine ⟨?_, fun k => ?_, fun k => ?_, ?_⟩
  · constructor
    · intro h
      cases refusedFor_of_ofWords h
      rfl
    · rintro rfl
      rfl
  · constructor
    · intro h
      cases refusedFor_of_ofWords h with
      | unsupportedKind hkind => exact ⟨_, _, rfl, hkind, rfl⟩
    · rintro ⟨kind, parameters, rfl, hkind, rfl⟩
      exact ofWords_of_not_mem_kindWords hkind
  · constructor
    · intro h
      cases refusedFor_of_ofWords h with
      | missingParameter hkind hyearly => exact ⟨_, hkind, rfl, hyearly, rfl⟩
    · rintro ⟨kind, hkind, rfl, hyearly, rfl⟩
      exact ofWords_of_kind_alone hkind hyearly
  · constructor
    · rintro ⟨fault, h⟩
      cases refusedFor_of_ofWords h with
      | invalidParameter hkind hnone => exact ⟨⟨_, hkind, _, _, rfl⟩, hnone⟩
    · rintro ⟨⟨kind, hkind, first, rest, rfl⟩, hnone⟩
      obtain ⟨e, he, hrefused⟩ := exists_refusedFor hnone
      cases hrefused with
      | unsupportedKind hnot => exact absurd hkind hnot
      | invalidParameter _ _ => exact ⟨_, he⟩

/-- A rule in an unusual spelling, and one that no day satisfies. -/
theorem parse_accepts_grammar_february :
    let rule : Rule := .monthly ⟨.ofList [29], false, true⟩ (.ofList [2])
    Names ["m".toList, "-2,+029".toList, "02,2".toList, "more".toList] rule ∧
      (∀ rule, ¬ Names ["m".toList, "30".toList, "2".toList] rule) ∧
      parse " \u3000w" = .error (.missingParameter "w") := by
  intro rule
  obtain ⟨ws, hcut, hnames, -⟩ := parse_accepts_grammar "\u2003m  -2,+029\t02,2 more"
  obtain ⟨ws', hcut', -, -, -, -, hfault⟩ := parse_accepts_grammar "m 30 2"
  obtain ⟨ws'', hcut'', -, -, -, hmissing, -⟩ := parse_accepts_grammar " \u3000w"
  obtain rfl := (hcut _).1 (runs_words _)
  obtain rfl := (hcut' _).1 (runs_words _)
  obtain rfl := (hcut'' _).1 (runs_words _)
  refine ⟨(hnames rule).1 (by decide), (hfault.1 ⟨.unreachable (.ofList [30]), by decide⟩).2, ?_⟩
  exact (hmissing "w").2 ⟨['w'], by decide, by decide, by decide, by decide⟩

end Rule

end Agenda
