import Agenda.Rule.Parser

/-!
# Tasks

A task as it is stored, the draft of a new task and the change of a stored one.  Dates and rules are kept
as written, since other tools may store a text that is neither.

* `Task.rule?` — the rule of a repeating task.
* `TaskChange.applyTo` — a change overwrites the fields that it names.
-/

namespace Agenda

structure Task where
  id : Int
  /-- The day the task is due, in the stored form of dates. -/
  date : String
  title : String
  comment : String
  /-- The rule by which the task repeats; empty for a task that is done once. -/
  recurrence : String
deriving DecidableEq, Repr

/-- A task to be stored.  An empty date stands for today. -/
structure TaskDraft where
  title : String
  date : String
  comment : String
  recurrence : String
deriving DecidableEq, Repr

/-- New texts for some fields of a task. -/
structure TaskChange where
  title : Option String
  date : Option String
  comment : Option String
  recurrence : Option String
deriving DecidableEq, Repr

/-- What became of a task that was done. -/
inductive Completion
  /-- A task that does not repeat is gone. -/
  | removed (task : Task)
  /-- A repeating task has moved on from its previous date. -/
  | rescheduled (task : Task) (previousDate : String)
deriving DecidableEq, Repr

namespace Task

def isRepeating (t : Task) : Bool := t.recurrence != ""

/-- The rule of a task; none if it does not repeat. -/
def rule? (t : Task) : Except RuleError (Option Rule) :=
  if t.recurrence = "" then pure none else (Rule.parse t.recurrence).map some

/-- The draft from which a task could have been made. -/
def draft (t : Task) : TaskDraft := ⟨t.title, t.date, t.comment, t.recurrence⟩

end Task

namespace TaskDraft

def withId (d : TaskDraft) (id : Int) : Task := ⟨id, d.date, d.title, d.comment, d.recurrence⟩

end TaskDraft

namespace TaskChange

def none : TaskChange := ⟨.none, .none, .none, .none⟩

def isEmpty (c : TaskChange) : Bool :=
  c.title.isNone && c.date.isNone && c.comment.isNone && c.recurrence.isNone

/-- Overwrites the fields that the change names. -/
def applyTo (c : TaskChange) (t : Task) : Task where
  id := t.id
  date := c.date.getD t.date
  title := c.title.getD t.title
  comment := c.comment.getD t.comment
  recurrence := c.recurrence.getD t.recurrence

/-- One change after another, as a single change. -/
def andThen (first second : TaskChange) : TaskChange where
  title := second.title.or first.title
  date := second.date.or first.date
  comment := second.comment.or first.comment
  recurrence := second.recurrence.or first.recurrence

@[simp] theorem applyTo_none (t : Task) : TaskChange.none.applyTo t = t := rfl

/-- Two changes in a row act as the single change made of them. -/
theorem applyTo_andThen (first second : TaskChange) (t : Task) :
    (first.andThen second).applyTo t = second.applyTo (first.applyTo t) := by
  have h : ∀ (a b : Option String) (s : String), (b.or a).getD s = b.getD (a.getD s) := by
    intro a b s
    cases b <;> rfl
  simp only [applyTo, andThen, h]

end TaskChange

end Agenda
