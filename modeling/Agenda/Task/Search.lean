import Agenda.Calendar.Written
import Agenda.Task.Basic
import Agenda.Text.Like

/-!
# Searching tasks

A search term selects all tasks if it is blank, the tasks of a day if it is written as `DD.MM.YYYY`, and
otherwise the tasks whose title or comment contains it.

* `Search.parse` — what a term asks for.
* `Search.selects` — the tasks it selects.
* `Search.isTooLong` — whether no task can be compared with it.
-/

namespace Agenda

open Text

/-- What a search asks for. -/
inductive Search
  /-- Every task. -/
  | all
  /-- The tasks that are due on a day. -/
  | day (d : Date)
  /-- The tasks that speak of a text. -/
  | text (s : String)
deriving DecidableEq, Repr

namespace Search

def parse (term : String) : Search :=
  if trimmed term = "" then .all
  else match Date.ofDotted? term with
    | some d => .day d
    | none => .text (trimmed term)

def selects (search : Search) (t : Task) : Bool :=
  match search with
  | .all => true
  | .day d => t.date == d.compact
  | .text s =>
      Like.fits (Like.containing s.toList) t.title.toList ||
        Like.fits (Like.containing s.toList) t.comment.toList

def isTooLong : Search → Bool
  | .text s => Like.isTooLong (Like.containing s.toList)
  | _ => false

example : parse " 29.02.2024 " = (Date.of? 2024 2 29).elim .all .day := by decide

example : parse "31.02.2024" = .text "31.02.2024" := by decide

end Search

end Agenda
