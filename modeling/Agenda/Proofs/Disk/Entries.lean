import Agenda.Disk.Basic
import Agenda.Proofs.Outcome
import Mathlib.Logic.Function.Basic

/-!
# What is on the disk after a change

Something that is put into a place or removed from it leaves every other place as it was.  A new directory
takes a place where nothing was, so no tasks are lost by making directories, whether all of them can be made
or not.

* `Disk.tasksIn` — the tasks in a place.
* `Disk.entry?_put`, `Disk.entry?_removeFile` — single changes.
* `Disk.tasksIn_makeAlong` — the directories on the way to a file.
-/

namespace Agenda

open Outcome

namespace Disk

variable {disk after : Disk} {place : Place} {entry : Entry}

/-- The tasks in a place.  Where no table is, there are none. -/
def tasksIn (disk : Disk) (place : Place) : Table := (disk.table? place).getD .empty

theorem entry?_of_isBase (h : place.isBase) : disk.entry? place = some .directory := by
  rw [Disk.entry?, if_pos h]

/-- Where something else than a directory is, there is no base of other places. -/
theorem not_isBase {found : Option Entry} (h : disk.entry? place = found)
    (hfound : found ≠ some .directory) : ¬ place.isBase :=
  fun hbase => hfound (h ▸ entry?_of_isBase hbase)

theorem table?_eq_some_iff {t : Table} : disk.table? place = some t ↔ disk.entry? place = some (.table t) := by
  rw [table?]
  cases disk.entry? place with
  | none => simp
  | some entry => cases entry <;> simp

theorem tasksIn_of_entry?_eq (h : after.entry? place = disk.entry? place) :
    after.tasksIn place = disk.tasksIn place := by
  rw [tasksIn, tasksIn, table?, table?, h]

theorem tasksIn_of_table? {t : Table} (h : disk.table? place = some t) : disk.tasksIn place = t := by
  rw [tasksIn, h, Option.getD_some]

/-- Where something else than a table is, there are no tasks. -/
theorem tasksIn_eq_empty (h : ∀ t, disk.entry? place ≠ some (.table t)) : disk.tasksIn place = .empty := by
  have hnone : disk.table? place = none :=
    Option.eq_none_iff_forall_ne_some.2 fun t ht => h t (table?_eq_some_iff.1 ht)
  rw [tasksIn, hnone, Option.getD_none]

/-! ### Single changes -/

/-- Overwriting the entries of a place does not change which of them is found first. -/
theorem find?_overwritten (entries : List (Place × Entry)) (other : Place) :
    (entries.map fun old => if old.1 = place then (place, entry) else old).find? (fun e => e.1 == other) =
      (entries.find? fun e => e.1 == other).map fun old =>
        if old.1 = place then (place, entry) else old := by
  rw [List.find?_map]
  congr 2
  funext old
  show ((if old.1 = place then (place, entry) else old).1 == other) = (old.1 == other)
  split
  · rename_i h
    rw [h]
  · rfl

/-- A place that was overwritten holds what was put there, any other place what it held. -/
theorem entry?_put (h : ¬ place.isBase) :
    entry? (disk.put place entry) = Function.update disk.entry? place (some entry) := by
  funext other
  rw [put, if_neg h]
  by_cases hother : other = place
  · subst hother
    rw [Function.update_self, Disk.entry?, if_neg h]
    split
    · -- there was something in the place, and it is overwritten
      rename_i hany
      obtain ⟨old, hfound⟩ := Option.isSome_iff_exists.1 (List.find?_isSome.2 (List.any_eq_true.1 hany))
      show Option.map Prod.snd (List.find? _ (disk.entries.map _)) = some entry
      rw [find?_overwritten, hfound]
      have : old.1 = other := by simpa using List.find?_some hfound
      simp [this]
    · -- nothing was there, so the entry that is appended is found
      rename_i hany
      have hnone : disk.entries.find? (fun e => e.1 == other) = none :=
        List.find?_eq_none.2 fun old hold hplace => hany (List.any_eq_true.2 ⟨old, hold, hplace⟩)
      show Option.map Prod.snd (List.find? _ (disk.entries ++ [(other, entry)])) = some entry
      rw [List.find?_append, hnone]
      simp
  · rw [Function.update_of_ne hother, Disk.entry?, Disk.entry?]
    congr 1
    split
    · show Option.map Prod.snd (List.find? _ (disk.entries.map _)) = _
      rw [find?_overwritten]
      cases hfound : disk.entries.find? fun e => e.1 == other with
      | none => rfl
      | some old =>
        have : old.1 = other := by simpa using List.find?_some hfound
        simp [this, hother]
    · show Option.map Prod.snd (List.find? _ (disk.entries ++ [(place, entry)])) = _
      rw [List.find?_append]
      simp [Ne.symm hother]

theorem table?_put_self {t : Table} (h : ¬ place.isBase) :
    (disk.put place (.table t)).table? place = some t := by
  rw [table?_eq_some_iff, entry?_put h, Function.update_self]

theorem entry?_put_of_ne {other : Place} (h : ¬ place.isBase) (hother : other ≠ place) :
    entry? (disk.put place entry) other = disk.entry? other := by
  rw [entry?_put h, Function.update_of_ne hother]

/-- Something that is no table takes no tasks away from a place where nothing was. -/
theorem tasksIn_put_of_free (h : disk.entry? place = none) (hentry : ∀ t, entry ≠ .table t) :
    (disk.put place entry).tasksIn = disk.tasksIn := by
  have hbase : ¬ place.isBase := not_isBase h (by simp)
  funext other
  by_cases hother : other = place
  · subst hother
    rw [tasksIn_eq_empty, tasksIn_eq_empty]
    · simp [h]
    · simpa [entry?_put hbase] using hentry
  · exact tasksIn_of_entry?_eq (entry?_put_of_ne hbase hother)

/-- Removing a file changes at most what is in its place, and then nothing is there any more. -/
theorem entry?_removeFile (disk : Disk) (place other : Place) :
    entry? (disk.removeFile place) other = disk.entry? other ∨
      other = place ∧ entry? (disk.removeFile place) other = none := by
  rw [removeFile]
  split
  · rename_i hfile
    by_cases hother : other = place
    · subst hother
      have hbase : ¬ other.isBase := by
        intro h
        rw [isFile, entry?_of_isBase h] at hfile
        cases hfile
      refine .inr ⟨rfl, ?_⟩
      rw [Disk.entry?, if_neg hbase]
      simp
    · refine .inl ?_
      rw [Disk.entry?, Disk.entry?]
      congr 2
      show List.find? _ (disk.entries.filter _) = _
      rw [List.find?_filter]
      congr 1
      funext e
      by_cases he : e.1 = other <;> simp [he, hother]
  · exact .inl rfl

/-! ### Making directories -/

/-- A new directory is put into a place where nothing was. -/
theorem exists_of_makeDirectory {path : Path} (h : disk.makeDirectory path = .ok after) :
    ∃ place, disk.entry? place = none ∧ after = disk.put place .directory := by
  rw [makeDirectory] at h
  split at h
  · cases h
  · rename_i name _
    split at h
    · cases h
    · obtain ⟨above, -, h⟩ := bind_eq_ok_iff.1 h
      dsimp only at h
      split at h
      · cases h
      · rename_i hfree
        rw [pure_eq_ok_iff] at h
        refine ⟨above.step name, ?_, h.symm⟩
        simp only [Bool.or_eq_true, not_or] at hfree
        exact Option.not_isSome_iff_eq_none.1 hfree.2

theorem tasksIn_makeDirectory {path : Path} (h : disk.makeDirectory path = .ok after) :
    after.tasksIn = disk.tasksIn := by
  obtain ⟨place, hfree, rfl⟩ := exists_of_makeDirectory h
  exact tasksIn_put_of_free hfree (by simp)

/-- However far the making of directories goes, every place keeps its tasks. -/
theorem tasksIn_makeAlong (isAbsolute : Bool) (steps : List String) :
    (makeAlong isAbsolute disk steps).2.tasksIn = disk.tasksIn := by
  induction steps with
  | nil => rfl
  | cons step before ih =>
    rw [makeAlong]
    cases hmade : disk.makeDirectory ⟨isAbsolute, before.reverse ++ [step]⟩ with
    | ok after => exact tasksIn_makeDirectory hmade
    | error trouble =>
      cases trouble with
      | blocked => rfl
      | missing =>
        -- the directories on the way are made first, and then this one is tried again
        rcases halong : makeAlong isAbsolute disk before with ⟨_ | _, between⟩
        · rw [halong] at ih
          exact ih
        · rw [halong] at ih
          dsimp only
          split
          · rename_i hagain
            exact (tasksIn_makeDirectory hagain).trans ih
          · exact ih

end Disk

end Agenda
