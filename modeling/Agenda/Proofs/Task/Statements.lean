import Agenda.Proofs.Task.Operation
import Agenda.Task.Statements

/-!
# Operations as statements on the table

An operation that a database carries out statement by statement comes to the same as the operation carried out
at once: no write of it outlives a failure, and a deletion that finds nothing has deleted nothing.  Where the
database refuses a step, the operation fails with its report and the table stays as it was.

* `Repository.perform_ofTable` — the repository of a table carries out what `Table.perform` does.
* `Statement.Yields` — what statements come to, if none of their steps is refused.
* `Statement.Does` — a procedure that does what another does, or is refused.
* `Request.run_script` — every operation, where nothing is refused.
-/

namespace Agenda

open Outcome

/-! ### Carrying out a procedure -/

namespace Procedure

variable {World α β : Type}

theorem run_pure (a : α) (w : World) : (pure a : Procedure World α).run w = (.ok a, w) := rfl

theorem run_bind (x : Procedure World α) (f : α → Procedure World β) (w : World) :
    run (x >>= f) w =
      match x.run w with
      | (.ok a, after) => (f a).run after
      | (.error e, after) => (.error e, after) := by
  unfold run ExceptT.run StateT.run
  simp only [bind, ExceptT.bind, ExceptT.mk, StateT.bind, ExceptT.bindCont]
  rcases x w with ⟨_ | _, after⟩ <;> rfl

@[simp] theorem run_given (outcome : Except TaskError α) (w : World) :
    (given outcome).run w = (outcome, w) := rfl

@[simp] theorem run_looking (look : World → Except TaskError α) (w : World) :
    (looking look).run w = (look w, w) := rfl

theorem run_changing (change : World → Except TaskError (α × World)) (w : World) :
    (changing change).run w =
      match change w with
      | .ok (a, after) => (.ok a, after)
      | .error e => (.error e, w) := rfl

@[simp] theorem run_expectTask_some (id : Int) (task : Task) (w : World) :
    (expectTask id (some task)).run w = (.ok task, w) := rfl

end Procedure

open Procedure

/-- The repository of a table carries out an operation as the table does. -/
theorem Repository.perform_ofTable (now : Moment) (request : Request) (t : Table) :
    ((ofTable now).perform request).run t = t.perform now request := by
  cases request with
  | find id => rfl
  | list limit => rfl
  | search term limit =>
    simp only [perform, ofTable, run_bind, run_looking, Table.perform, Table.attempt]
    cases t.search term limit <;> rfl
  | add draft =>
    simp only [perform, ofTable, run_bind, run_changing, Table.perform, Table.attempt]
    cases t.add now draft <;> rfl
  | change id c =>
    simp only [perform, ofTable, run_bind, run_changing, Table.perform, Table.attempt]
    cases t.change now id c <;> rfl
  | setDate id date =>
    simp only [perform, ofTable, run_bind, run_changing, Table.perform, Table.attempt]
    cases t.setDate id date <;> rfl
  | delete id =>
    simp only [perform, ofTable, run_bind, run_changing, Table.perform, Table.attempt]
    cases t.delete id <;> rfl
  | complete id =>
    simp only [perform, ofTable, run_bind, run_changing, Table.perform, Table.attempt]
    cases t.complete now id <;> rfl

namespace Statement

variable {refuses : Refusals} {α : Type}

/-! ### Single statements -/

theorem run_take (step : Step) (t : Table) :
    (take refuses step).run t =
      ((refuses step).elim (.ok ()) fun fault => .error (.database fault), t) := rfl

theorem run_selectRow (id : Int) (t : Table) :
    (selectRow refuses id).run t =
      ((refuses .select).elim (.ok (t.find? id)) fun fault => .error (.database fault), t) := by
  rw [selectRow, run_bind, run_take]
  cases refuses .select <;> rfl

theorem run_selectRows (rows : Table → Except TaskError (List Task)) (t : Table) :
    (selectRows refuses rows).run t =
      ((refuses .select).elim (rows t) fun fault => .error (.database fault), t) := by
  rw [selectRows, run_bind, run_take]
  cases refuses .select <;> rfl

theorem run_insertRow (draft : TaskDraft) (t : Table) :
    (insertRow refuses draft).run t =
      match refuses .write, t.insertNew? draft with
      | some fault, _ => (.error (.database fault), t)
      | none, some (task, u) => (.ok task, u)
      | none, none => (.error (.database .idsExhausted), t) := by
  rw [insertRow, run_bind, run_take]
  cases refuses .write with
  | some fault => rfl
  | none =>
    simp only [Option.elim_none, run_changing]
    cases t.insertNew? draft <;> rfl

theorem run_updateRow (id : Int) (overwrite : Task → Task) (t : Table) :
    (updateRow refuses id overwrite).run t =
      match refuses .write, t.find? id with
      | some fault, _ => (.error (.database fault), t)
      | none, some row => (.ok (some (overwrite row)), t.replace (overwrite row))
      | none, none => (.ok none, t) := by
  rw [updateRow, run_bind, run_take]
  cases refuses .write with
  | some fault => rfl
  | none =>
    simp only [Option.elim_none, run_changing]
    cases t.find? id <;> rfl

theorem run_deleteRow (id : Int) (t : Table) :
    (deleteRow refuses id).run t =
      match refuses .write with
      | some fault => (.error (.database fault), t)
      | none => (.ok (t.rows.countP fun row => row.id == id), t.erase id) := by
  rw [deleteRow, run_bind, run_take]
  cases refuses .write <;> rfl

/-! ### What statements come to -/

/-- Statements succeed or fail as they should, or a step is refused.  What they wrote before a failure is not
looked at. -/
inductive Yields (refuses : Refusals) : Except TaskError (α × Table) → Except TaskError α × Table → Prop
  | ok {a : α} {u : Table} : Yields refuses (.ok (a, u)) (.ok a, u)
  | error {e : TaskError} {u : Table} : Yields refuses (.error e) (.error e, u)
  | refused {wanted : Except TaskError (α × Table)} {step : Step} {fault : DatabaseFault} {u : Table} :
      refuses step = some fault → Yields refuses wanted (.error (.database fault), u)

/-- A procedure does what another one does, or a step is refused and the table stays as it is. -/
def Does (refuses : Refusals) (procedure other : Procedure Table α) : Prop :=
  ∀ t, procedure.run t = other.run t ∨
    ∃ step fault, refuses step = some fault ∧ procedure.run t = (.error (.database fault), t)

/-- What was written in a transaction is there only if all of it is. -/
theorem does_transaction {body : Procedure Table α} (change : Table → Except TaskError (α × Table))
    (h : ∀ t, Yields refuses (change t) (body.run t)) :
    Does refuses (transaction refuses body) (changing change) := by
  intro t
  have hrun : (transaction refuses body).run t = transaction refuses body t := rfl
  rw [hrun, run_changing, transaction]
  simp only [run_bind, run_take]
  cases hbegin : refuses .begin with
  | some fault => exact .inr ⟨_, fault, hbegin, rfl⟩
  | none =>
    have hbody := h t
    simp only [Option.elim_none]
    generalize body.run t = result at hbody
    generalize change t = wanted at hbody
    cases hbody with
    | error => exact .inl rfl
    | refused hstep => exact .inr ⟨_, _, hstep, rfl⟩
    | ok =>
      cases hcommit : refuses .commit with
      | some fault => exact .inr ⟨_, fault, hcommit, rfl⟩
      | none => exact .inl rfl

theorem eq_of_does {procedure other : Procedure Table α} (h : Does (fun _ => none) procedure other) (t : Table) :
    procedure.run t = other.run t := by
  rcases h t with heq | ⟨step, fault, hstep, -⟩
  · exact heq
  · cases hstep

/-! ### The operations -/

section

variable (now : Moment) (refuses : Refusals)

theorem does_find (id : Int) :
    Does refuses ((Repository.ofStatements now refuses).find id) (looking fun t => .ok (t.find? id)) := by
  intro t
  simp only [Repository.ofStatements, run_selectRow, run_looking]
  cases hselect : refuses .select with
  | some fault => exact .inr ⟨_, fault, hselect, rfl⟩
  | none => exact .inl rfl

/-- Rows are selected, or the selection is refused. -/
theorem does_selectRows (rows : Table → Except TaskError (List Task)) :
    Does refuses (selectRows refuses rows) (looking rows) := by
  intro t
  rw [run_selectRows]
  cases hselect : refuses .select with
  | some fault => exact .inr ⟨_, fault, hselect, rfl⟩
  | none => exact .inl rfl

theorem does_list (limit : Nat) :
    Does refuses ((Repository.ofStatements now refuses).list limit) (looking fun t => .ok (t.list limit)) :=
  does_selectRows refuses _

theorem does_search (term : String) (limit : Nat) :
    Does refuses ((Repository.ofStatements now refuses).search term limit)
      (looking fun t => t.search term limit) :=
  does_selectRows refuses _

theorem does_add (draft : TaskDraft) :
    Does refuses ((Repository.ofStatements now refuses).add draft) (changing fun t => t.add now draft) := by
  intro t
  simp only [Repository.ofStatements, run_bind, run_given]
  cases hprepare : draft.prepare now with
  | error e =>
    rw [run_changing, Table.add, hprepare]
    exact .inl rfl
  | ok prepared =>
    refine does_transaction (fun t => t.add now draft) (fun t => ?_) t
    rw [run_insertRow, Table.add, hprepare, bind_ok]
    cases hwrite : refuses .write with
    | some fault => exact .refused hwrite
    | none =>
      cases t.insertNew? prepared with
      | none => exact .error
      | some result => exact .ok

theorem does_change (id : Int) (c : TaskChange) :
    Does refuses ((Repository.ofStatements now refuses).change id c) (changing fun t => t.change now id c) := by
  refine does_transaction _ fun t => ?_
  simp only [run_bind, run_selectRow, Table.change, Table.get]
  cases hselect : refuses .select with
  | some fault => exact .refused hselect
  | none =>
    cases hfound : t.find? id with
    | none => exact .error
    | some row =>
      simp only [Option.elim_none, run_expectTask_some, run_given, bind_ok]
      cases (c.applyTo row).draft.prepare now with
      | error e => exact .error
      | ok prepared =>
        simp only [run_updateRow, hfound]
        cases hwrite : refuses .write with
        | some fault => exact .refused hwrite
        | none =>
          -- the statement overwrites the row under the number of the row itself
          rw [← (Table.find?_eq_some_iff.1 hfound).2]
          exact .ok

theorem does_setDate (id : Int) (date : String) :
    Does refuses ((Repository.ofStatements now refuses).setDate id date)
      (changing fun t => (t.setDate id date).map fun u => ((), u)) := by
  intro t
  simp only [Repository.ofStatements, run_bind, run_given]
  cases hdate : (Date.ofCompact? date).isNone with
  | true =>
    rw [run_changing, Table.setDate, hdate]
    exact .inl rfl
  | false =>
    refine does_transaction (fun t => (t.setDate id date).map fun u => ((), u)) (fun t => ?_) t
    simp only [run_bind, run_updateRow, Table.setDate, Table.get, hdate]
    cases hwrite : refuses .write with
    | some fault => exact .refused hwrite
    | none =>
      cases t.find? id with
      | none => exact .error
      | some row => exact .ok

/-- A deletion is carried out at once, without a transaction. -/
theorem does_delete (id : Int) :
    Does refuses ((Repository.ofStatements now refuses).delete id) (changing fun t => (t.delete id).map fun u => ((), u)) := by
  intro t
  simp only [Repository.ofStatements, run_bind, run_deleteRow, run_changing, Table.delete,
    Table.get]
  cases hwrite : refuses .write with
  | some fault => exact .inr ⟨_, fault, hwrite, rfl⟩
  | none =>
    refine .inl ?_
    cases hfound : t.find? id with
    | none =>
      have hgone : (t.rows.countP fun row => row.id == id) = 0 := Table.countP_eq_zero_iff.2 hfound
      simp only [hgone, if_pos, Table.erase_of_find?_eq_none hfound]
      rfl
    | some row =>
      have hgone : (t.rows.countP fun row => row.id == id) ≠ 0 := by
        rw [Ne, Table.countP_eq_zero_iff, hfound]
        exact Option.some_ne_none row
      have hid : row.id = id := (Table.find?_eq_some_iff.1 hfound).2
      simp only [if_neg hgone, bind_ok, hid]
      rfl

theorem does_complete (id : Int) :
    Does refuses ((Repository.ofStatements now refuses).complete id) (changing fun t => t.complete now id) := by
  refine does_transaction _ fun t => ?_
  simp only [run_bind, run_selectRow, Table.complete, Table.get]
  cases hselect : refuses .select with
  | some fault => exact .refused hselect
  | none =>
    cases hfound : t.find? id with
    | none => exact .error
    | some row =>
      simp only [Option.elim_none, run_expectTask_some, run_given, bind_ok]
      cases row.rule? with
      | error e => exact .error
      | ok rule =>
        cases rule with
        | none =>
          simp only [Except.mapError, bind_ok, run_bind, run_deleteRow]
          cases hwrite : refuses .write with
          | some fault => exact .refused hwrite
          | none => exact .ok
        | some rule =>
          simp only [Except.mapError, bind_ok, run_bind, run_given]
          cases Table.dateAfterCompletion now rule row.date with
          | error e => exact .error
          | ok next =>
            simp only [run_updateRow, hfound]
            cases hwrite : refuses .write with
            | some fault => exact .refused hwrite
            | none => exact .ok

end

end Statement

/-- **The statements of an operation come to the same as the operation carried out at once**: no write of
theirs outlives a failure. -/
theorem Request.run_script (request : Request) (now : Moment) (t : Table) :
    (request.script now).run t = t.perform now request := by
  rw [← Repository.perform_ofTable]
  cases request with
  | find id =>
    simp only [script, Repository.perform, Repository.ofTable, run_bind,
      Statement.eq_of_does (Statement.does_find now _ id)]
  | list limit =>
    simp only [script, Repository.perform, Repository.ofTable, run_bind,
      Statement.eq_of_does (Statement.does_list now _ limit)]
  | search term limit =>
    simp only [script, Repository.perform, Repository.ofTable, run_bind,
      Statement.eq_of_does (Statement.does_search now _ term limit)]
  | add draft =>
    simp only [script, Repository.perform, Repository.ofTable, run_bind,
      Statement.eq_of_does (Statement.does_add now _ draft)]
  | change id c =>
    simp only [script, Repository.perform, Repository.ofTable, run_bind,
      Statement.eq_of_does (Statement.does_change now _ id c)]
  | setDate id date =>
    simp only [script, Repository.perform, Repository.ofTable, run_bind,
      Statement.eq_of_does (Statement.does_setDate now _ id date)]
  | delete id =>
    simp only [script, Repository.perform, Repository.ofTable, run_bind,
      Statement.eq_of_does (Statement.does_delete now _ id)]
  | complete id =>
    simp only [script, Repository.perform, Repository.ofTable, run_bind,
      Statement.eq_of_does (Statement.does_complete now _ id)]

end Agenda
