import Agenda.CommandLine.Run
import Agenda.Proofs.Storage
import Agenda.Proofs.Task.Listing

/-!
# What commands make of tasks

A command on tasks carries out at most one operation that writes, or it only looks.  What it makes of a table is
said here command by command, without running it: the date is resolved, blanks around the rule do not count, and
a field that is cleared is set to nothing, while one that is not named stays as it is.

* `TaskCommand.Looks` — the commands that only look.
* `TaskCommand.Makes` — the table that a command makes.
* `TaskCommand.act_actsOn` — every command, on the tasks of an open database.
-/

namespace Agenda.CommandLine

open Procedure Text

namespace TaskCommand

/-- A command that does not write.  Deleting does not, unless it is forced or the question whether it is meant is
answered with yes. -/
inductive Looks (answer? : Option Bool) : TaskCommand → Prop
  | list {term : Option String} {limit : Option Nat} : Looks answer? (.list term limit)
  | show {id : Int} {asJson : Bool} : Looks answer? (.show id asJson)
  | delete {id : Int} : answer? ≠ some true → Looks answer? (.delete id false)

/-- The table that a command makes of a table, where it succeeds. -/
inductive Makes (settings : Settings) (now : Moment) (answer? : Option Bool) (t : Table) :
    TaskCommand → Table → Prop
  | add {title : String} {date comment recurrence : Option String} {task : Task} {u : Table} :
      t.add now {
        title := title
        date := (date.map fun d => resolveDate d now.date).getD ""
        comment := comment.getD ""
        recurrence := (recurrence.map trimmed).getD "" } = .ok (task, u) →
      Makes settings now answer? t (.add title date comment recurrence) u
  | list {term : Option String} {limit : Option Nat} {found : List Task} :
      t.search (trimmed (term.getD "")) (limit.getD settings.listLimit) = .ok found →
      Makes settings now answer? t (.list term limit) t
  | show {id : Int} {asJson : Bool} {task : Task} : t.find? id = some task →
      Makes settings now answer? t (.show id asJson) t
  /-- An edit names a field. -/
  | edit {id : Int} {title date comment recurrence : Option String} {clearComment clearRecurrence : Bool}
      {task : Task} {u : Table} :
      title ≠ none ∨ date ≠ none ∨ comment ≠ none ∨ clearComment = true ∨ recurrence ≠ none ∨
        clearRecurrence = true →
      t.change now id {
        title := title
        date := date.map fun d => resolveDate d now.date
        comment := if clearComment then some "" else comment
        recurrence := if clearRecurrence then some "" else recurrence.map trimmed } = .ok (task, u) →
      Makes settings now answer? t
        (.edit id title date comment clearComment recurrence clearRecurrence) u
  | cancel {id : Int} {task : Task} : answer? ≠ some true → t.find? id = some task →
      Makes settings now answer? t (.delete id false) t
  | delete {id : Int} {force : Bool} {u : Table} : force = true ∨ answer? = some true → t.delete id = .ok u →
      Makes settings now answer? t (.delete id force) u
  | done {id : Int} {completion : Completion} {u : Table} : t.complete now id = .ok (completion, u) →
      Makes settings now answer? t (.done id) u

variable {settings : Settings} {now : Moment} {answer? : Option Bool} {t u : Table} {c : TaskCommand}

theorem Makes.eq_of_looks (h : c.Makes settings now answer? t u) (hlooks : c.Looks answer?) : u = t := by
  cases hlooks with
  | list =>
    cases h
    rfl
  | «show» =>
    cases h
    rfl
  | delete hanswer =>
    cases h with
    | cancel => rfl
    | delete hmeant =>
      rcases hmeant with hforce | hyes
      · cases hforce
      · exact absurd hyes hanswer

theorem addedDraft_eq (today : Date) (title : String) (date comment recurrence : Option String) :
    addedDraft today title date comment recurrence =
      ⟨title, (date.map fun d => resolveDate d today).getD "", comment.getD "",
        (recurrence.map trimmed).getD ""⟩ := by
  cases date <;> cases recurrence <;> rfl

/-- An edit asks for a change exactly if it names a field. -/
theorem editChange_isEmpty_iff (today : Date) (title date comment recurrence : Option String)
    (clearComment clearRecurrence : Bool) :
    (editChange today title date comment clearComment recurrence clearRecurrence).isEmpty = false ↔
      title ≠ none ∨ date ≠ none ∨ comment ≠ none ∨ clearComment = true ∨ recurrence ≠ none ∨
        clearRecurrence = true := by
  cases title <;> cases date <;> cases comment <;> cases clearComment <;> cases recurrence <;>
    cases clearRecurrence <;> simp [editChange, TaskChange.isEmpty]

/-! ### Commands on an open database -/

/-- What a command does with the tasks of an open database: it saves what it makes of them, or it looks at them,
or it fails with the tasks as they were.  It fails only if there is nothing that it could make of them, or if the
database refuses a step. -/
inductive ActsOn {World Connection : Type} (S : Storage World Connection) (connection : Connection) (w : World)
    (settings : Settings) (now : Moment) (answer? : Option Bool) (c : TaskCommand) :
    Except TaskError Report × World → Prop
  | saves {report : Report} {u : Table} : c.Makes settings now answer? (S.read connection w) u →
      ActsOn S connection w settings now answer? c (.ok report, S.write connection u w)
  | looks {report : Report} : c.Makes settings now answer? (S.read connection w) (S.read connection w) →
      ActsOn S connection w settings now answer? c (.ok report, w)
  | fails {e : TaskError} {after : World} :
      after = w ∨ after = S.write connection (S.read connection w) w →
      (∀ u, ¬ c.Makes settings now answer? (S.read connection w) u) ∨
        (∃ step fault, S.refuses connection w step = some fault) →
      ActsOn S connection w settings now answer? c (.error e, after)

section

variable {World Connection α : Type} {S : Storage World Connection} {connection : Connection} {w : World}

/-- A command that hands over statements that write. -/
theorem actsOn_of_changing {statements : Refusals → Procedure Table α}
    {change : Table → Except TaskError (α × Table)}
    (hdoes : ∀ refuses, Statement.Does refuses (statements refuses) (.changing change)) (report : α → Report)
    (hmakes : ∀ u, c.Makes settings now answer? (S.read connection w) u ↔
      ∃ a, change (S.read connection w) = .ok (a, u)) :
    ActsOn S connection w settings now answer? c
      ((do let a ← S.changing connection statements; return report a : Procedure World Report).run w) := by
  rw [run_bind]
  rcases S.changing_cases connection w hdoes with ⟨a, u, hok, hrun⟩ | ⟨e, hrun, hfails⟩
  · rw [hrun]
    exact .saves ((hmakes u).2 ⟨a, hok⟩)
  · rw [hrun]
    refine .fails (.inr rfl) (hfails.imp_left fun herror u h => ?_)
    obtain ⟨a, hok⟩ := (hmakes u).1 h
    rw [herror] at hok
    cases hok

/-- A command that hands over statements that look. -/
theorem actsOn_of_looking {statements : Refusals → Procedure Table α} {look : Table → Except TaskError α}
    (hdoes : ∀ refuses, Statement.Does refuses (statements refuses) (.looking look))
    (next : α → Procedure World Report)
    (hnext : ∀ a, look (S.read connection w) = .ok a →
      ActsOn S connection w settings now answer? c ((next a).run w))
    (hfails : ∀ e, look (S.read connection w) = .error e →
      ∀ u, ¬ c.Makes settings now answer? (S.read connection w) u) :
    ActsOn S connection w settings now answer? c
      ((do let a ← S.looking connection statements; next a : Procedure World Report).run w) := by
  rw [run_bind]
  rcases S.looking_cases connection w hdoes with hrun | ⟨step, fault, hstep, hrun⟩
  · rw [hrun]
    cases hlook : look (S.read connection w) with
    | ok a => exact hnext a hlook
    | error e => exact .fails (.inl rfl) (.inl (hfails e hlook))
  · rw [hrun]
    exact .fails (.inl rfl) (.inr ⟨step, fault, hstep⟩)

/-- A command that looks a task up first. -/
theorem actsOn_of_find (id : Int) (next : Task → Procedure World Report)
    (hmissing : (S.read connection w).find? id = none → ∀ u, ¬ c.Makes settings now answer? (S.read connection w) u)
    (hfound : ∀ task, (S.read connection w).find? id = some task →
      ActsOn S connection w settings now answer? c ((next task).run w)) :
    ActsOn S connection w settings now answer? c
      ((do let task ← expectTask id (← (S.repository now connection).find id); next task :
        Procedure World Report).run w) := by
  refine actsOn_of_looking (fun refuses => Statement.does_find now refuses id) _ ?_ ?_
  · intro found h
    obtain rfl := Except.ok.inj h
    rw [run_bind]
    cases hfind : (S.read connection w).find? id with
    | none => exact .fails (.inl rfl) (.inl (hmissing hfind))
    | some task => exact hfound task hfind
  · intro e h
    cases h

variable (S connection w settings now answer?)

theorem add_actsOn (title : String) (date comment recurrence : Option String) :
    ActsOn S connection w settings now answer? (.add title date comment recurrence)
      (((TaskCommand.add title date comment recurrence).act (S.repository now connection) settings now
        answer?).run w) := by
  refine actsOn_of_changing (fun refuses => Statement.does_add now refuses _) _ fun u => ?_
  rw [addedDraft_eq]
  constructor
  · intro h
    cases h with
    | add hok => exact ⟨_, hok⟩
  · intro h
    obtain ⟨task, hok⟩ := h
    exact .add hok

theorem list_actsOn (term : Option String) (limit : Option Nat) :
    ActsOn S connection w settings now answer? (.list term limit)
      (((TaskCommand.list term limit).act (S.repository now connection) settings now answer?).run w) := by
  rw [act]
  by_cases hblank : trimmed (term.getD "") = ""
  · simp only [if_pos hblank]
    refine actsOn_of_looking (fun refuses => Statement.does_list now refuses _) _ ?_ ?_
    · intro found _
      have hterm : IsBlankText (trimmed (term.getD "")).toList := by
        rw [hblank]
        decide
      exact .looks (.list (Table.search_blank hterm _))
    · intro e h
      cases h
  · simp only [if_neg hblank]
    refine actsOn_of_looking (fun refuses => Statement.does_search now refuses _ _) _ ?_ ?_
    · intro found h
      exact .looks (.list h)
    · intro e herror u h
      cases h with
      | list hok => exact absurd (herror.symm.trans hok) (by simp)

theorem show_actsOn (id : Int) (asJson : Bool) :
    ActsOn S connection w settings now answer? (.show id asJson)
      (((TaskCommand.show id asJson).act (S.repository now connection) settings now answer?).run w) := by
  apply actsOn_of_find
  · intro hnone u h
    cases h with
    | «show» hfind =>
      rw [hnone] at hfind
      cases hfind
  · intro task hfind
    exact .looks (.show hfind)

theorem edit_actsOn (id : Int) (title date comment : Option String) (clearComment : Bool)
    (recurrence : Option String) (clearRecurrence : Bool) :
    ActsOn S connection w settings now answer?
      (.edit id title date comment clearComment recurrence clearRecurrence)
      (((TaskCommand.edit id title date comment clearComment recurrence clearRecurrence).act
        (S.repository now connection) settings now answer?).run w) := by
  have hnames := editChange_isEmpty_iff now.date title date comment recurrence clearComment clearRecurrence
  rw [act]
  cases hempty : (editChange now.date title date comment clearComment recurrence clearRecurrence).isEmpty with
  | true =>
    refine .fails (.inl rfl) (.inl fun u h => ?_)
    cases h with
    | edit hnamed =>
      rw [hnames.2 hnamed] at hempty
      cases hempty
  | false =>
    simp only [Bool.false_eq_true, if_false]
    refine actsOn_of_changing (fun refuses => Statement.does_change now refuses id _) _ fun u => ?_
    constructor
    · intro h
      cases h with
      | edit _ hok => exact ⟨_, hok⟩
    · intro h
      obtain ⟨task, hok⟩ := h
      exact .edit (hnames.1 hempty) hok

theorem delete_actsOn (id : Int) (force : Bool) :
    ActsOn S connection w settings now answer? (.delete id force)
      (((TaskCommand.delete id force).act (S.repository now connection) settings now answer?).run w) := by
  apply actsOn_of_find
  · intro hnone u h
    cases h with
    | cancel _ hfind =>
      rw [hnone] at hfind
      cases hfind
    | delete _ hok =>
      rw [Table.delete, Table.get, hnone] at hok
      cases hok
  · intro task hfind
    obtain rfl : task.id = id := (Table.find?_eq_some_iff.1 hfind).2
    cases hmeant : force || answer?.getD false with
    | true =>
      have hyes : force = true ∨ answer? = some true := by
        rcases Bool.or_eq_true_iff.1 hmeant with hforce | hanswer
        · exact .inl hforce
        · cases answer? with
          | none => cases hanswer
          | some answer => exact .inr (congrArg some hanswer)
      refine actsOn_of_changing (fun refuses => Statement.does_delete now refuses task.id)
        (fun _ => .deleted task) fun u => ?_
      constructor
      · intro h
        cases h with
        | cancel hno => exact absurd (hyes.resolve_left (by simp)) hno
        | delete _ hok => exact ⟨(), Outcome.map_eq_ok_iff.2 ⟨u, hok, rfl⟩⟩
      · intro h
        obtain ⟨_, hok⟩ := h
        obtain ⟨v, hok, heq⟩ := Outcome.map_eq_ok_iff.1 hok
        cases heq
        exact .delete hyes hok
    | false =>
      obtain ⟨hforce, hanswer⟩ := Bool.or_eq_false_iff.1 hmeant
      subst hforce
      refine .looks (.cancel ?_ hfind)
      rintro rfl
      cases hanswer

theorem done_actsOn (id : Int) :
    ActsOn S connection w settings now answer? (.done id)
      (((TaskCommand.done id).act (S.repository now connection) settings now answer?).run w) := by
  refine actsOn_of_changing (fun refuses => Statement.does_complete now refuses id) _ fun u => ?_
  constructor
  · intro h
    cases h with
    | done hok => exact ⟨_, hok⟩
  · intro h
    obtain ⟨completion, hok⟩ := h
    exact .done hok

/-- **A command saves what it makes of the tasks, or looks, or fails without a trace.** -/
theorem act_actsOn (c : TaskCommand) :
    ActsOn S connection w settings now answer? c
      ((c.act (S.repository now connection) settings now answer?).run w) := by
  cases c with
  | add title date comment recurrence => apply add_actsOn
  | list term limit => apply list_actsOn
  | «show» id asJson => apply show_actsOn
  | edit id title date comment clearComment recurrence clearRecurrence => apply edit_actsOn
  | delete id force => apply delete_actsOn
  | done id => apply done_actsOn

end

end TaskCommand

end Agenda.CommandLine
