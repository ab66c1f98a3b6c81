import Agenda.Json.Value
import Agenda.Task.Basic
import Agenda.Text.Number

/-!
# Tasks as JSON

A task or a draft is read from an object, whose other members are passed over, or from an array of its
fields in order.  It is written as an object on several lines.

* `TaskDraft.ofJson?`, `Task.ofJson?` — the readers.
* `Task.toJson` — the writer.
-/

namespace Agenda

namespace Json

/-- The values of named fields: the members of an object with these names, none of them twice, or the
items of an array in this order, as far as they go. -/
def fields? (names : List String) : Value → Option (List (Option Value))
  | .scalar _ => none
  | .array items =>
      if items.length ≤ names.length then
        some (items.map some ++ List.replicate (names.length - items.length) none)
      else none
  | .object members =>
      if members.any (fun m => m.1.isNone) then none
      else names.mapM fun name =>
        match members.filter (fun m => m.1 == some name.toList) with
        | [] => some none
        | [m] => some (some m.2)
        | _ => none

def text? : Option Value → Option String
  | some (.scalar (.text (some s))) => some (String.ofList s)
  | _ => none

/-- A field that is a text or is left out. -/
def textOrEmpty? : Option Value → Option String
  | none => some ""
  | field => text? field

/-- A field that is an integer of 64 bits. -/
def signed64? : Option Value → Option Int
  | some (.scalar (.integer n)) => if Text.least64 ≤ n ∧ n ≤ Text.greatest64 then some n else none
  | _ => none

end Json

/-- The draft that a JSON text describes.  All fields but the title may be left out. -/
def TaskDraft.ofJson? (s : String) : Option TaskDraft := do
  let value ← Json.parse? s
  match ← Json.fields? ["title", "date", "comment", "repeat"] value with
  | [title, date, comment, recurrence] =>
      some ⟨← Json.text? title, ← Json.textOrEmpty? date, ← Json.textOrEmpty? comment,
        ← Json.textOrEmpty? recurrence⟩
  | _ => none

namespace Task

def ofJsonValue? (value : Json.Value) : Option Task := do
  match ← Json.fields? ["id", "date", "title", "comment", "repeat"] value with
  | [id, date, title, comment, recurrence] =>
      some ⟨← Json.signed64? id, ← Json.text? date, ← Json.text? title, ← Json.text? comment,
        ← Json.text? recurrence⟩
  | _ => none

def ofJson? (s : String) : Option Task := (Json.parse? s).bind ofJsonValue?

def toJson (t : Task) : String :=
  "\x7b\n  \"id\": " ++ String.ofList (Text.signedDecimal t.id) ++
    ",\n  \"date\": " ++ Json.quote t.date ++
    ",\n  \"title\": " ++ Json.quote t.title ++
    ",\n  \"comment\": " ++ Json.quote t.comment ++
    ",\n  \"repeat\": " ++ Json.quote t.recurrence ++ "\n\x7d"

end Task

end Agenda
