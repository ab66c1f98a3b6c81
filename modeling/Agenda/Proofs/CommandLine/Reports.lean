import Agenda.CommandLine.Run
import Agenda.Proofs.Rule.Description
import Agenda.Proofs.Task.Operation

/-!
# The rules that reports describe

Three reports describe a rule: the one about a valid rule, the one about a new task and the details of a task.
What is described can be cut out of each of them, because a sign that no description holds stands in front of it.
So different rules are never described in the same words.

* `eq_of_described` — a rule, from a text that ends with its description.
* `eq_of_validRule_text_eq`, `eq_of_addedText_eq`, `eq_of_recurrenceText_eq` — a rule, from a report about it.
* `words_identify_rule` — all of this about rules that are read.
-/

namespace Agenda.CommandLine

open Text

/-- A rule is known by a text that ends with its description, if a sign that no description holds stands closely
in front of it. -/
theorem eq_of_described {r s : Rule} (hr : r.WellFormed) (hs : s.WellFormed)
    {front front' between back : String} {mark : Char} {before behind : List Char}
    (hbetween : between.toList = before ++ mark :: behind) (hmark : Rule.isDescriptive mark = false)
    (hbehind : mark ∉ behind)
    (h : front ++ between ++ r.describe ++ back = front' ++ between ++ s.describe ++ back) : r = s := by
  have hnone : ∀ r : Rule, mark ∉ (behind ++ r.describeChars).reverse := by
    intro r hmem
    rcases List.mem_append.1 (List.mem_reverse.1 hmem) with hmem | hmem
    · exact hbehind hmem
    · have hdescriptive := List.all_eq_true.1 r.all_describeChars mark hmem
      rw [hmark] at hdescriptive
      exact Bool.false_ne_true hdescriptive
  have hchars := congrArg String.toList h
  simp only [String.toList_append, hbetween, Rule.describe, String.toList_ofList, List.append_left_inj] at hchars
  -- the sign may stand in the front as well, so the text is read from its end
  have hreverse := congrArg List.reverse hchars
  have hback : (behind ++ r.describeChars).reverse ++ mark :: (before.reverse ++ front.toList.reverse) =
      (behind ++ s.describeChars).reverse ++ mark :: (before.reverse ++ front'.toList.reverse) := by
    simpa using hreverse
  have hbehindEq := List.reverse_injective (append_cons_inj (hnone r) (hnone s) hback).1
  exact Rule.eq_of_describe_eq hr hs (congrArg String.ofList (List.append_cancel_left hbehindEq))

theorem toList_openingBracket : " (".toList = [' '] ++ '(' :: [] := by decide

theorem toList_colon : ": ".toList = [] ++ ':' :: [' '] := by decide

/-! ### Reports -/

/-- A valid rule is known by the report about it. -/
theorem eq_of_validRule_text_eq {r s : Rule} (hr : r.WellFormed) (hs : s.WellFormed)
    (h : (Report.validRule r).text = (Report.validRule s).text) : r = s := by
  have htext : ∀ r : Rule, (Report.validRule r).text =
      successSign ++ " Valid rule: " ++ standingOut r.text ++ " (" ++ r.describe ++ ")\n" := fun _ => rfl
  rw [htext, htext] at h
  exact eq_of_described hr hs toList_openingBracket (by decide) (by decide) h

section

variable {t u : Task} {r s : Rule}

theorem wellFormed_of_rule? (h : t.rule? = .ok (some r)) : r.WellFormed := by
  rw [Task.rule?_eq] at h
  exact Rule.wellFormed_of_recurrenceRule? h

theorem recurrenceText_of_rule? (h : t.rule? = .ok (some r)) :
    recurrenceText t = t.recurrence ++ " (" ++ r.describe ++ ")" := by
  rw [recurrenceText, h]

/-- The report about a new task ends with the description of its rule. -/
theorem addedText_of_rule? (h : t.rule? = .ok (some r)) :
    ∃ front, addedText t = front ++ ": " ++ r.describe ++ "\n" := by
  rw [addedText, h]
  dsimp only
  rw [particular, particular, particular]
  simp only [← String.append_assoc]
  exact ⟨_, rfl⟩

variable (ht : t.rule? = .ok (some r)) (hu : u.rule? = .ok (some s))
include ht hu

/-- The rule of a task is known by what its details say about it. -/
theorem eq_of_recurrenceText_eq (h : recurrenceText t = recurrenceText u) : r = s := by
  rw [recurrenceText_of_rule? ht, recurrenceText_of_rule? hu] at h
  exact eq_of_described (wellFormed_of_rule? ht) (wellFormed_of_rule? hu) toList_openingBracket (by decide)
    (by decide) h

/-- The rule of a new task is known by the report about the task. -/
theorem eq_of_addedText_eq (h : addedText t = addedText u) : r = s := by
  obtain ⟨front, htext⟩ := addedText_of_rule? ht
  obtain ⟨front', htext'⟩ := addedText_of_rule? hu
  rw [htext, htext'] at h
  exact eq_of_described (wellFormed_of_rule? ht) (wellFormed_of_rule? hu) toList_colon (by decide) (by decide) h

end

/-- The details of tasks that are alike but for the rule are alike but for what they say about it. -/
theorem recurrenceText_eq_of_detailsText_eq {t u : Task} {today : Date}
    (halike : u = { t with recurrence := u.recurrence }) (h : detailsText t today = detailsText u today) :
    recurrenceText t = recurrenceText u := by
  obtain ⟨recurrence, rfl⟩ : ∃ recurrence, u = { t with recurrence := recurrence } := ⟨_, halike⟩
  have hchars := congrArg String.toList h
  simp only [detailsText, idText, String.toList_append, List.append_assoc] at hchars
  simpa [String.toList_inj] using hchars

/-- A text is reported to be a valid rule exactly if it is read as one. -/
theorem checkReport_eq_ok_validRule_iff {text : String} {r : Rule} :
    checkReport text = .ok (.validRule r) ↔ Rule.parse text = .ok r := by
  rw [checkReport]
  by_cases hempty : text = ""
  · simp [hempty, Rule.parse_empty]
  · cases hparse : Rule.parse text <;> simp [hempty]

/-- **Different rules are described in different words**, whatever texts they are read from.  So no two of them
share a report about a valid rule, a report about a new task, or what the details of a task say about its
rule. -/
theorem words_identify_rule :
    (∀ a b r s, Rule.parse a = .ok r → Rule.parse b = .ok s → r.describe = s.describe → r = s) ∧
    (∀ a b r s, checkReport a = .ok (.validRule r) → checkReport b = .ok (.validRule s) →
      (Report.validRule r).text = (Report.validRule s).text → r = s) ∧
    ∀ (t u : Task) r s, t.rule? = .ok (some r) → u.rule? = .ok (some s) →
      ((Report.added t).text = (Report.added u).text → r = s) ∧
      (recurrenceText t = recurrenceText u → r = s) ∧
      ∀ today, u = { t with recurrence := u.recurrence } →
        (Report.details t today).text = (Report.details u today).text → r = s := by
  refine ⟨fun a b r s hr hs h => ?_, fun a b r s hr hs h => ?_, fun t u r s ht hu => ⟨?_, ?_, ?_⟩⟩
  · exact Rule.eq_of_describe_eq (Rule.wellFormed_of_parse hr) (Rule.wellFormed_of_parse hs) h
  · have hr := Rule.wellFormed_of_parse (checkReport_eq_ok_validRule_iff.1 hr)
    have hs := Rule.wellFormed_of_parse (checkReport_eq_ok_validRule_iff.1 hs)
    exact eq_of_validRule_text_eq hr hs h
  · exact eq_of_addedText_eq ht hu
  · exact eq_of_recurrenceText_eq ht hu
  · intro today halike h
    exact eq_of_recurrenceText_eq ht hu (recurrenceText_eq_of_detailsText_eq halike h)

/-- The same rule in two spellings, described in the same words. -/
theorem words_identify_rule_spelled_twice :
    ∃ r s, Rule.parse "m -1,1 3" = .ok r ∧ Rule.parse "m 01,-1,1 +3" = .ok s ∧
      r.describe = "monthly on day 1, last in Mar" ∧ s.describe = "monthly on day 1, last in Mar" ∧
      addedText ⟨1, "20250331", "Rent", "", "m -1,1 3"⟩ =
        addedText ⟨1, "20250331", "Rent", "", "m 01,-1,1 +3"⟩ ∧ r = s := by
  let rule : Rule := .monthly ⟨.ofList [1], true, false⟩ (.ofList [3])
  have hr : Rule.parse "m -1,1 3" = .ok rule := by decide
  have hs : Rule.parse "m 01,-1,1 +3" = .ok rule := by decide
  have hadded : addedText ⟨1, "20250331", "Rent", "", "m -1,1 3"⟩ =
      addedText ⟨1, "20250331", "Rent", "", "m 01,-1,1 +3"⟩ := by decide +kernel
  obtain ⟨-, -, htasks⟩ := words_identify_rule
  have hsame := (htasks ⟨1, "20250331", "Rent", "", "m -1,1 3"⟩ ⟨1, "20250331", "Rent", "", "m 01,-1,1 +3"⟩
    rule rule (by decide) (by decide)).1 hadded
  exact ⟨rule, rule, hr, hs, by decide, by decide, hadded, hsame⟩

end Agenda.CommandLine
