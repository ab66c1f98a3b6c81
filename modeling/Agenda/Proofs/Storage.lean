import Agenda.Proofs.Task.Statements
import Agenda.Storage

/-!
# What a storage does to databases

The world behind a storage is seen through its databases.  What a storage must do with them is stated as laws:
opening a database, making it ready and closing it keep all tasks, and other tasks are written to the open
database only.  There is one exception.  The files whose names are that of the database with `-journal`, `-wal`
or `-shm` behind it belong to the database, and what is in them may be lost.

* `Storage.View` — the databases of a world.
* `Storage.Lawful` — the laws.
* `Storage.changing_cases`, `Storage.looking_cases` — statements on an open database.
* `Storage.withTasks_cases` — from the opening of a database to its closing.
-/

namespace Agenda.Storage

open Procedure

variable {World Connection Database α : Type}

/-! ### Databases -/

/-- The endings of the files that belong to a database: its journal, its log and the index of its log. -/
def sideEndings : List String := ["-journal", "-wal", "-shm"]

/-- How the databases of a world are seen. -/
structure View (World Connection Database : Type) where
  /-- The tasks in a database, which are none where there is no database. -/
  tasks : World → Database → Table
  /-- The database to which a target leads; none if it is in memory. -/
  located : World → Target → Option Database
  /-- The database in the file whose name has an ending more. -/
  beside : Database → String → Database
  /-- The database that is open; none if it is in memory. -/
  database? : Connection → Option Database

namespace View

variable (v : View World Connection Database)

def sides (d : Database) : List Database := sideEndings.map (v.beside d)

/-- The tasks in a database that may be in memory, where it is a new one. -/
def tasksAt (w : World) (selected? : Option Database) : Table := selected?.elim .empty (v.tasks w)

/-- A database keeps its tasks, or it is a side file of the selected one and has lost them. -/
def Keeps (selected? : Option Database) (before after : World) (d : Database) : Prop :=
  v.tasks after d = v.tasks before d ∨
    (∃ selected, selected? = some selected ∧ d ∈ v.sides selected) ∧ (v.tasks after d).rows = []

/-- The selected database gets other tasks, and every other one keeps its own. -/
structure Saves (selected? : Option Database) (before after : World) (t : Table) : Prop where
  tasks_eq : ∀ d, selected? = some d → v.tasks after d = t
  keeps : ∀ d, selected? ≠ some d → v.Keeps selected? before after d

/-- The database that a path selects, once the directories on the way to it are there. -/
def selected? (S : Storage World Connection) (path : String) (w : World) : Option Database :=
  v.located ((S.makeWay path).run w).2 (if path = "sqlite::memory:" then .memory else .file path)

end View

/-- What is asked of a storage, however it keeps its databases.  Nothing is asked about when it fails. -/
structure Lawful (S : Storage World Connection) (v : View World Connection Database) : Prop where
  /-- A name with an ending more is another name. -/
  beside_ne : ∀ d, ∀ ending ∈ sideEndings, v.beside d ending ≠ d
  /-- New directories take no file away. -/
  tasks_makeDirectories : ∀ path w d, v.tasks (S.makeDirectories path w).2 d = v.tasks w d
  /-- Opening a database may make a file, and may drop what a change of it left behind. -/
  keeps_connect : ∀ target w d, v.Keeps (v.located w target) w ((S.connect target).run w).2 d
  /-- What is opened is what was asked for. -/
  database?_of_connect : ∀ target w connection after,
    (S.connect target).run w = (.ok connection, after) → v.database? connection = v.located w target
  /-- A database in memory is new. -/
  read_of_connect : ∀ target w connection after, (S.connect target).run w = (.ok connection, after) →
    v.database? connection = none → S.read connection after = .empty
  /-- A table is made where there is none, and one that is there is kept. -/
  keeps_migrate : ∀ connection w d, v.Keeps (v.database? connection) w ((S.migrate connection).run w).2 d
  read_of_migrate : ∀ connection w after, (S.migrate connection).run w = (.ok (), after) →
    S.read connection after = S.read connection w
  /-- An open database is read as it is. -/
  read_eq : ∀ connection w d, v.database? connection = some d → S.read connection w = v.tasks w d
  /-- What is written to an open database is in it then, and in no other one. -/
  saves_write : ∀ connection t w, v.Saves (v.database? connection) w (S.write connection t w) t
  keeps_close : ∀ connection w d, v.Keeps (v.database? connection) w (S.close connection w) d

/-! ### Keeping and saving, one after the other -/

namespace View

variable {v : View World Connection Database} {selected? : Option Database} {before between after : World}
  {t : Table} {d : Database}

theorem Keeps.refl (w : World) (d : Database) : v.Keeps selected? w w d := .inl rfl

theorem Keeps.trans (h : v.Keeps selected? before between d) (h' : v.Keeps selected? between after d) :
    v.Keeps selected? before after d := by
  rcases h' with heq | ⟨hside, hempty⟩
  · rw [Keeps, heq]
    exact h
  · exact .inr ⟨hside, hempty⟩

/-- Every database but the side files of the selected one keeps its tasks. -/
theorem Keeps.tasks_eq (h : v.Keeps selected? before after d)
    (hside : ∀ selected, selected? = some selected → d ∉ v.sides selected) :
    v.tasks after d = v.tasks before d := by
  rcases h with heq | ⟨⟨selected, hselected, hmem⟩, -⟩
  · exact heq
  · exact absurd hmem (hside selected hselected)

theorem not_mem_sides (h : ∀ ending ∈ sideEndings, v.beside d ending ≠ d) : d ∉ v.sides d := by
  intro hmem
  obtain ⟨ending, hending, heq⟩ := List.mem_map.1 hmem
  exact h ending hending heq

/-- The selected database itself keeps its tasks, for it is no side file of its own. -/
theorem Keeps.tasks_self (h : v.Keeps (some d) before after d)
    (hside : ∀ ending ∈ sideEndings, v.beside d ending ≠ d) : v.tasks after d = v.tasks before d := by
  refine h.tasks_eq fun selected hselected => ?_
  obtain rfl := Option.some.inj hselected
  exact not_mem_sides hside

theorem Saves.of_keeps (hkeeps : ∀ d, v.Keeps selected? before between d)
    (h : v.Saves selected? between after t) : v.Saves selected? before after t where
  tasks_eq := h.tasks_eq
  keeps d hd := (hkeeps d).trans (h.keeps d hd)

/-- A database that gets the tasks that it had keeps them. -/
theorem Saves.keeps_of_eq (h : v.Saves selected? before after (v.tasksAt before selected?)) (d : Database) :
    v.Keeps selected? before after d := by
  by_cases hd : selected? = some d
  · subst hd
    exact .inl (h.tasks_eq d rfl)
  · exact h.keeps d hd

end View

namespace Lawful

variable {S : Storage World Connection} {v : View World Connection Database} (laws : S.Lawful v)
  {selected? : Option Database} {before between after : World} {connection : Connection} {t : Table}
include laws

theorem tasksAt_eq (h : ∀ d, v.Keeps selected? before after d) :
    v.tasksAt after selected? = v.tasksAt before selected? := by
  cases selected? with
  | none => rfl
  | some selected => exact (h selected).tasks_self (laws.beside_ne selected)

theorem saves_trans (h : v.Saves selected? before between t) (hkeeps : ∀ d, v.Keeps selected? between after d) :
    v.Saves selected? before after t where
  tasks_eq d hd := by
    subst hd
    exact (laws.tasksAt_eq hkeeps).trans (h.tasks_eq d rfl)
  keeps d hd := (h.keeps d hd).trans (hkeeps d)

theorem keeps_makeWay (path : String) (w : World) (d : Database) :
    v.Keeps selected? w ((S.makeWay path).run w).2 d := by
  rw [makeWay]
  split
  · exact .refl w d
  · show v.Keeps selected? w (S.makeParent (.ofText path) w).2 d
    rw [makeParent]
    split
    · exact .refl w d
    · rename_i parent _
      split
      · exact .refl w d
      · have hmade := laws.tasks_makeDirectories parent w d
        split <;> rename_i heq <;> rw [heq] at hmade <;> exact .inl hmade

/-- What keeps all tasks saves those that the selected database has. -/
theorem saves_of_keeps (h : ∀ d, v.Keeps selected? before after d) :
    v.Saves selected? before after (v.tasksAt before selected?) where
  tasks_eq d hd := by
    subst hd
    exact laws.tasksAt_eq h
  keeps d _ := h d

/-- Writing back what was read keeps all tasks. -/
theorem keeps_write_read (connection : Connection) (w : World) (d : Database) :
    v.Keeps (v.database? connection) w (S.write connection (S.read connection w) w) d := by
  have hsaves := laws.saves_write connection (S.read connection w) w
  by_cases hd : v.database? connection = some d
  · refine .inl ?_
    rw [hsaves.tasks_eq d hd]
    exact laws.read_eq connection w d hd
  · exact hsaves.keeps d hd

end Lawful

/-! ### Statements on an open database -/

section

variable (S : Storage World Connection) (connection : Connection) (w : World)

/-- Statements that look give what the operation gives, or one of them is refused. -/
theorem looking_cases {statements : Refusals → Procedure Table α} {look : Table → Except TaskError α}
    (h : ∀ refuses, Statement.Does refuses (statements refuses) (.looking look)) :
    (S.looking connection statements).run w = (look (S.read connection w), w) ∨
      ∃ step fault, S.refuses connection w step = some fault ∧
        (S.looking connection statements).run w = (.error (.database fault), w) := by
  have hrun : (S.looking connection statements).run w =
      (((statements (S.refuses connection w)).run (S.read connection w)).1, w) := rfl
  rw [hrun]
  rcases h (S.refuses connection w) (S.read connection w) with heq | ⟨step, fault, hstep, heq⟩
  · rw [heq]
    exact .inl rfl
  · rw [heq]
    exact .inr ⟨step, fault, hstep, rfl⟩

/-- Statements that write save what the operation makes of the tasks, or fail with the tasks as they were. -/
theorem changing_cases {statements : Refusals → Procedure Table α}
    {change : Table → Except TaskError (α × Table)}
    (h : ∀ refuses, Statement.Does refuses (statements refuses) (.changing change)) :
    (∃ a t, change (S.read connection w) = .ok (a, t) ∧
        (S.changing connection statements).run w = (.ok a, S.write connection t w)) ∨
      ∃ e, (S.changing connection statements).run w =
          (.error e, S.write connection (S.read connection w) w) ∧
        (change (S.read connection w) = .error e ∨ ∃ step fault, S.refuses connection w step = some fault) := by
  have hrun : (S.changing connection statements).run w =
      (((statements (S.refuses connection w)).run (S.read connection w)).1,
        S.write connection ((statements (S.refuses connection w)).run (S.read connection w)).2 w) := rfl
  rw [hrun]
  rcases h (S.refuses connection w) (S.read connection w) with heq | ⟨step, fault, hstep, heq⟩
  · rw [heq, run_changing]
    cases hchange : change (S.read connection w) with
    | ok result => exact .inl ⟨result.1, result.2, rfl, rfl⟩
    | error e => exact .inr ⟨e, rfl, .inl rfl⟩
  · rw [heq]
    exact .inr ⟨.database fault, rfl, .inr ⟨step, fault, hstep⟩⟩

end

/-! ### Opening and closing -/

theorem run_closing (S : Storage World Connection) (connection : Connection) (procedure : Procedure World α)
    (w : World) :
    (S.closing connection procedure).run w =
      ((procedure.run w).1, S.close connection (procedure.run w).2) := rfl

/-- The database under a path is opened and made ready. -/
def Opens (S : Storage World Connection) (path : String) (w : World) (connection : Connection) (after : World) :
    Prop :=
  ∃ opened, (S.connectTo path).run w = (.ok connection, opened) ∧
    (S.migrate connection).run opened = (.ok (), after)

section

variable {S : Storage World Connection} {v : View World Connection Database} (laws : S.Lawful v)
  {path : String} {w after after' : World} {connection connection' : Connection}

theorem Opens.unique (h : S.Opens path w connection after) (h' : S.Opens path w connection' after') :
    connection = connection' ∧ after = after' := by
  obtain ⟨opened, hconnect, hmigrate⟩ := h
  obtain ⟨opened', hconnect', hmigrate'⟩ := h'
  rw [hconnect] at hconnect'
  cases hconnect'
  rw [hmigrate] at hmigrate'
  exact ⟨rfl, congrArg Prod.snd hmigrate'⟩

namespace Lawful

include laws

theorem keeps_connectTo (path : String) (w : World) (d : Database) :
    v.Keeps (v.selected? S path w) w ((S.connectTo path).run w).2 d := by
  have hway : v.Keeps (v.selected? S path w) w ((S.makeWay path).run w).2 d := laws.keeps_makeWay path w d
  have hconnect := laws.keeps_connect (.ofPath path) ((S.makeWay path).run w).2 d
  rw [connectTo, run_bind]
  rw [View.selected?] at hway ⊢
  generalize (S.makeWay path).run w = made at hway hconnect ⊢
  rcases made with ⟨e | _, ready⟩
  · exact hway
  · exact hway.trans hconnect

/-- What is open is what was selected, and a database in memory is new. -/
theorem of_connectTo {opened : World} (h : (S.connectTo path).run w = (.ok connection, opened)) :
    v.database? connection = v.selected? S path w ∧
      (v.database? connection = none → S.read connection opened = .empty) := by
  rw [connectTo, run_bind] at h
  rw [View.selected?]
  generalize (S.makeWay path).run w = made at h ⊢
  rcases made with ⟨e | _, ready⟩
  · cases h
  · exact ⟨laws.database?_of_connect _ _ _ _ h, laws.read_of_connect _ _ _ _ h⟩

theorem keeps_ready {opened : World} (h : (S.connectTo path).run w = (.ok connection, opened)) (d : Database) :
    v.Keeps (v.selected? S path w) w ((S.migrate connection).run opened).2 d := by
  have hopened := laws.keeps_connectTo path w d
  have hready := laws.keeps_migrate connection opened d
  rw [h] at hopened
  rw [(laws.of_connectTo h).1] at hready
  exact hopened.trans hready

/-- An open database is the one that was selected, with the tasks that it had. -/
theorem of_opens (h : S.Opens path w connection after) :
    v.database? connection = v.selected? S path w ∧
      S.read connection after = v.tasksAt w (v.selected? S path w) ∧
      ∀ d, v.Keeps (v.selected? S path w) w after d := by
  obtain ⟨opened, hconnect, hmigrate⟩ := h
  obtain ⟨hselected, hnew⟩ := laws.of_connectTo hconnect
  have hkeeps := laws.keeps_ready hconnect
  rw [hmigrate] at hkeeps
  refine ⟨hselected, ?_, hkeeps⟩
  cases hdatabase : v.database? connection with
  | none =>
    rw [← hselected, hdatabase, laws.read_of_migrate _ _ _ hmigrate]
    exact hnew hdatabase
  | some d =>
    rw [← laws.tasksAt_eq hkeeps, ← hselected, hdatabase]
    exact laws.read_eq connection after d hdatabase

/-- A database cannot be opened, or a procedure is carried out on its tasks before it is closed. -/
theorem withTasks_cases (path : String) (now : Moment) (procedure : Repository World → Procedure World α)
    (w : World) :
    (∃ e after, (S.withTasks path now procedure).run w = (.error e, after) ∧
        (∀ d, v.Keeps (v.selected? S path w) w after d) ∧
        ∀ connection opened, ¬ S.Opens path w connection opened) ∨
      ∃ connection opened, S.Opens path w connection opened ∧
        (S.withTasks path now procedure).run w =
          (((procedure (S.repository now connection)).run opened).1,
            S.close connection ((procedure (S.repository now connection)).run opened).2) := by
  have hkeeps := laws.keeps_connectTo path w
  rw [withTasks, run_bind]
  rcases hconnect : (S.connectTo path).run w with ⟨e | connection, opened⟩
  · rw [hconnect] at hkeeps
    refine .inl ⟨e, opened, rfl, hkeeps, ?_⟩
    rintro connection after ⟨_, hconnect', -⟩
    rw [hconnect] at hconnect'
    cases hconnect'
  have hready := laws.keeps_ready hconnect
  simp only [run_closing, run_bind]
  rcases hmigrate : (S.migrate connection).run opened with ⟨e | _, after⟩
  · rw [hmigrate] at hready
    refine .inl ⟨e, S.close connection after, rfl, fun d => ?_, ?_⟩
    · have hclosed := laws.keeps_close connection after d
      rw [(laws.of_connectTo hconnect).1] at hclosed
      exact (hready d).trans hclosed
    · rintro connection' after' ⟨_, hconnect', hmigrate'⟩
      rw [hconnect] at hconnect'
      cases hconnect'
      rw [hmigrate] at hmigrate'
      cases hmigrate'
  · exact .inr ⟨connection, after, ⟨opened, hconnect, hmigrate⟩, rfl⟩

end Lawful

end

end Agenda.Storage
