import Agenda.Proofs.Rule.NumberList

/-!
# Writing and reading are inverse

The canonical text of a well-formed rule is read as that rule, and no other rules can be read.  So a rule is
known by its canonical text, and making a text canonical a second time changes nothing.

* `Rule.parse_text` — the canonical text is read back, for every kind of rule.
* `Rule.canonical?` — the canonical text of what a text names.
* `Rule.text_and_parse_inverse` — both directions, and what follows for canonical texts.
-/

namespace Agenda.Rule

open Outcome Text

theorem parse_ofList (s : List Char) : parse (String.ofList s) = ofWords (words s) := by
  rw [parse, String.toList_ofList]

theorem words_kind_cons {kind : Char} (hkind : isBlank kind = false) (s : List Char) :
    words (kind :: ' ' :: s) = [kind] :: words s := by
  refine words_word_append (w := [kind]) (by simp) ?_ s
  intro c hc
  rw [List.mem_singleton.1 hc]
  exact hkind

/-! ### Each kind of rule -/

theorem parse_text_daily {interval : Nat} (h : (daily interval).WellFormed) :
    parse (daily interval).text = .ok (.daily interval) := by
  obtain ⟨hpos, hle⟩ := h
  have hle : interval ≤ 400 := hle
  have hword : words (decimal interval) = [decimal interval] :=
    words_eq_singleton (decimal_ne_nil _) fun c hc => isBlank_of_isDigit (isDigit_of_mem_decimal hc)
  have hread : signed64? (decimal interval) = some (interval : Int) := by
    rw [← signedDecimal_natCast]
    exact signed64?_signedDecimal (by unfold least64; omega) (by unfold greatest64; omega)
  rw [text, parse_ofList, textChars, words_kind_cons (by decide), hword]
  show dailyOf [decimal interval] = _
  rw [dailyOf, RuleField.read, hread]
  show (if (1 : Int) ≤ interval ∧ (interval : Int) ≤ greatestInterval then _ else _) = _
  rw [if_pos ⟨by omega, by rw [greatestInterval]; omega⟩]
  rfl

theorem parse_text_weekly {weekdays : NumberSet} (h : (weekly weekdays).WellFormed) :
    parse (weekly weekdays).text = .ok (.weekly weekdays) := by
  obtain ⟨hne, hrange⟩ := h
  have hword : words (commaSeparated (weekdays.elements.map decimal)) =
      [commaSeparated (weekdays.elements.map decimal)] := by
    rw [NumberSet.map_decimal]
    exact (words_commaSeparated (by simpa using hne)).1
  have hread : RuleField.weekday.readList (fun n => 1 ≤ n && n ≤ 7)
      (commaSeparated (weekdays.elements.map decimal)) = .ok (weekdays.elements.map Int.ofNat) := by
    refine RuleField.readList_set (by decide) hne ?_
    intro n hn
    have := hrange n hn
    omega
  rw [text, parse_ofList, textChars, words_kind_cons (by decide), hword]
  show weeklyOf [commaSeparated (weekdays.elements.map decimal)] = _
  rw [weeklyOf, hread]
  show Except.ok (Rule.weekly (.ofList ((weekdays.elements.map Int.ofNat).map Int.toNat))) = _
  rw [NumberSet.ofList_toNat]

/-- The months are read back, whether they are written or left out. -/
theorem monthsOf_text {months : NumberSet} (hne : months.elements ≠ [])
    (hrange : ∀ n ∈ months, 1 ≤ n ∧ n ≤ 12) :
    monthsOf (if months.size = 12 then [] else [commaSeparated (months.elements.map decimal)]) =
      .ok months := by
  by_cases hsize : months.size = 12
  · rw [if_pos hsize, NumberSet.eq_allMonths hrange hsize]
    rfl
  · have hread : RuleField.month.readList (fun n => 1 ≤ n && n ≤ 12)
        (commaSeparated (months.elements.map decimal)) = .ok (months.elements.map Int.ofNat) := by
      refine RuleField.readList_set (by decide) hne ?_
      intro n hn
      have := hrange n hn
      omega
    rw [if_neg hsize, monthsOf, hread]
    show Except.ok (NumberSet.ofList ((months.elements.map Int.ofNat).map Int.toNat)) = _
    rw [NumberSet.ofList_toNat]

theorem selectors_ne_nil {days : MonthDays} {months : NumberSet} (h : (monthly days months).WellFormed) :
    days.selectors ≠ [] := by
  obtain ⟨-, -, hlast | hsecond | ⟨day, hday, -⟩⟩ := h
  · exact List.ne_nil_of_mem (MonthDays.mem_selectors.2 (.inr (.inl ⟨hlast, rfl⟩)))
  · exact List.ne_nil_of_mem (MonthDays.mem_selectors.2 (.inr (.inr ⟨hsecond, rfl⟩)))
  · exact List.ne_nil_of_mem (MonthDays.mem_selectors.2 (.inl ⟨day, hday, rfl⟩))

theorem parse_text_monthly {days : MonthDays} {months : NumberSet} (h : (monthly days months).WellFormed) :
    parse (monthly days months).text = .ok (.monthly days months) := by
  have hselectors := selectors_ne_nil h
  obtain ⟨hdays, ⟨hne, hmonths⟩, hreach⟩ := h
  have hread : RuleField.monthDay.readList (fun n => n == -1 || n == -2 || (1 ≤ n && n ≤ 31))
      (commaSeparated (days.selectors.map signedDecimal)) = .ok days.selectors := by
    refine RuleField.readList_commaSeparated hselectors ?_
    intro n hn
    unfold least64 greatest64
    simp only [Bool.or_eq_true, Bool.and_eq_true, decide_eq_true_eq, beq_iff_eq]
    rcases MonthDays.mem_selectors.1 hn with ⟨day, hday, rfl⟩ | ⟨-, rfl⟩ | ⟨-, rfl⟩
    · have := hdays day hday
      omega
    · omega
    · omega
  obtain ⟨hword, hwords⟩ := words_commaSeparated hselectors
  -- the list of months is a word of its own, or there is no second word
  have hlists : words (commaSeparated (days.selectors.map signedDecimal) ++
      if months.size = 12 then [] else ' ' :: commaSeparated (months.elements.map decimal)) =
      commaSeparated (days.selectors.map signedDecimal) ::
        if months.size = 12 then [] else [commaSeparated (months.elements.map decimal)] := by
    split
    · rw [List.append_nil, hword]
    · rw [hwords, NumberSet.map_decimal, (words_commaSeparated (by simpa using hne)).1]
  have hcheck : days.checkReach months = .ok () := if_pos (MonthDays.reaches_iff.2 hreach)
  rw [text, parse_ofList, textChars, List.cons_append, List.cons_append, words_kind_cons (by decide), hlists]
  show monthlyOf (_ :: _) = _
  rw [monthlyOf, hread]
  show Except.mapError _ (monthsOf _ >>= _) = _
  rw [monthsOf_text hne hmonths]
  show Except.mapError _ ((MonthDays.ofSelectors days.selectors).checkReach months >>= _) = _
  rw [MonthDays.ofSelectors_selectors fun n hn => (hdays n hn).1, hcheck]
  rfl

/-! ### All rules -/

/-- **The canonical text of a well-formed rule is read as that rule.** -/
theorem parse_text {rule : Rule} (h : rule.WellFormed) : parse rule.text = .ok rule := by
  cases rule with
  | daily interval => exact parse_text_daily h
  | weekly weekdays => exact parse_text_weekly h
  | monthly days months => exact parse_text_monthly h
  | yearly => decide

/-- The canonical text of the rule that a text names. -/
def canonical? (s : String) : Except RuleError String := (parse s).map text

/-- **Writing and reading are inverse.**  What is read is well formed, and each well-formed rule is read from
its canonical text.  So texts name the same rule exactly if they have the same canonical text, and a canonical
text is its own. -/
theorem text_and_parse_inverse :
    (∀ s rule, parse s = .ok rule → rule.WellFormed) ∧
    (∀ rule : Rule, rule.WellFormed → parse rule.text = .ok rule) ∧
    (∀ a b r s, parse a = .ok r → parse b = .ok s → (r = s ↔ r.text = s.text)) ∧
    ∀ s, canonical? s >>= canonical? = canonical? s := by
  refine ⟨fun s rule h => wellFormed_of_parse h, fun rule h => parse_text h, ?_, ?_⟩
  · intro a b r s ha hb
    refine ⟨congrArg text, fun htext => ?_⟩
    have hr := parse_text (wellFormed_of_parse ha)
    rw [htext, parse_text (wellFormed_of_parse hb)] at hr
    cases hr
    rfl
  · intro s
    rw [canonical?]
    cases h : parse s with
    | error e => rfl
    | ok rule =>
      show canonical? rule.text = .ok rule.text
      rw [canonical?, parse_text (wellFormed_of_parse h)]
      rfl

/-- Two spellings of the rule for the end of the winter months. -/
theorem text_and_parse_inverse_winter :
    let rule : Rule := .monthly ⟨.ofList [29], true, true⟩ (.ofList [2, 12])
    parse " m -2,29,-1,+29 12,02" = .ok rule ∧ rule.WellFormed ∧ parse rule.text = .ok rule ∧
      parse "m 29,-1,-2 2,12 more" = .ok rule ∧ rule.text = "m 29,-1,-2 2,12" := by
  intro rule
  have hread : parse " m -2,29,-1,+29 12,02" = .ok rule := by decide
  have hagain : parse "m 29,-1,-2 2,12 more" = .ok rule := by decide
  obtain ⟨hwell, htext, hsame, -⟩ := text_and_parse_inverse
  have hwell := hwell _ _ hread
  exact ⟨hread, hwell, htext rule hwell, hagain, ((hsame _ _ _ _ hread hagain).1 rfl).trans (by decide)⟩

end Agenda.Rule
