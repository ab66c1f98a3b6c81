import Agenda.Task.Json
import Agenda.Task.Table

/-!
# Tables as JSON

A table is kept in a file as an object of the greatest number that it ever held and of its rows.

* `Table.toJson`, `Table.ofJson?` — the writer and the reader.
-/

namespace Agenda.Table

/-- A table without rows that once held a number. -/
def emptyAbove (highestId : Int) : Table where
  rows := []
  highestId := max 0 highestId
  ids_distinct := empty.ids_distinct
  ids_le := by simp
  highestId_nonneg := by omega

def toJson (t : Table) : String :=
  "\x7b\n\"highest_id\": " ++ String.ofList (Text.signedDecimal t.highestId) ++
    ",\n\"tasks\": [" ++ String.intercalate ",\n" (t.rows.map Task.toJson) ++ "]\n\x7d\n"

/-- The table that a JSON text describes; no two rows may have one number. -/
def ofJson? (s : String) : Option Table := do
  let value ← Json.parse? s
  match ← Json.fields? ["highest_id", "tasks"] value with
  | [highestId, some (.array rows)] =>
      let highestId ← Json.signed64? highestId
      let tasks ← rows.mapM Task.ofJsonValue?
      tasks.foldlM insert? (emptyAbove highestId)
  | _ => none

end Agenda.Table
