import Agenda.Proofs.CommandLine.Commands
import Agenda.Proofs.Disk.Opening

/-!
# What runs do to databases

A run carries out at most one operation that writes, and only in the database that it selects.  A run that fails,
or whose command only looks, changes no tasks.  All this holds over every storage that keeps its laws, whatever
the arguments mean, whatever the settings are and whatever is answered at the terminal.

* `onTasks_cases` — one command, from the opening of its database to its closing.
* `tasks_afterRuns` — what every command keeps is kept by any runs.
* `lastRun_effect` — what the last of many runs changes.
* `opening_clears_database_beside` — what is lost beside a database.
-/

namespace Agenda.CommandLine

variable {World Connection Database : Type} {S : Storage World Connection}
  {v : Storage.View World Connection Database} (laws : S.Lawful v)
include laws

/-- A command on the database under a path fails and changes no tasks, or it succeeds and saves what it makes of
the tasks that the database held.  It does not fail for no reason. -/
theorem onTasks_cases (settings : Settings) (now : Moment) (answer? : Option Bool) (path : String)
    (c : TaskCommand) (w : World) :
    let selected? := v.selected? S path w
    let outcome := (S.withTasks path now fun tasks => c.act tasks settings now answer?).run w
    (∃ e after, outcome = (.error e, after) ∧ (∀ d, v.Keeps selected? w after d) ∧
        ∀ connection opened, S.Opens path w connection opened →
          (∀ step, S.refuses connection opened step = none) →
          ∀ u, ¬ c.Makes settings now answer? (v.tasksAt w selected?) u) ∨
      ∃ report u after, outcome = (.ok report, after) ∧
        c.Makes settings now answer? (v.tasksAt w selected?) u ∧ v.Saves selected? w after u := by
  intro selected? outcome
  rcases laws.withTasks_cases path now (fun tasks => c.act tasks settings now answer?) w with
    ⟨e, after, hrun, hkeeps, hclosed⟩ | ⟨connection, opened, hopens, hrun⟩
  · exact .inl ⟨e, after, hrun, hkeeps, fun connection opened hopens => absurd hopens (hclosed _ _)⟩
  obtain ⟨hselected, hread, hkeeps⟩ := laws.of_opens hopens
  have hclose : ∀ w' d, v.Keeps selected? w' (S.close connection w') d := by
    intro w' d
    have hclosed := laws.keeps_close connection w' d
    rw [hselected] at hclosed
    exact hclosed
  have hacts := TaskCommand.act_actsOn settings now answer? S connection opened c
  rw [show outcome = _ from hrun]
  generalize (c.act (S.repository now connection) settings now answer?).run opened = result at hacts ⊢
  cases hacts with
  | saves hmakes =>
    rename_i report u
    rw [hread] at hmakes
    have hsaves := laws.saves_write connection u opened
    rw [hselected] at hsaves
    exact .inr ⟨report, u, _, rfl, hmakes, laws.saves_trans (.of_keeps hkeeps hsaves) (hclose _)⟩
  | looks hmakes =>
    rename_i report
    rw [hread] at hmakes
    have hall : ∀ d, v.Keeps selected? w (S.close connection opened) d := fun d => (hkeeps d).trans (hclose _ d)
    exact .inr ⟨report, _, _, rfl, hmakes, laws.saves_of_keeps hall⟩
  | fails hafter hreason =>
    rename_i e after
    refine .inl ⟨e, _, rfl, fun d => ?_, ?_⟩
    · refine ((hkeeps d).trans ?_).trans (hclose _ d)
      rcases hafter with rfl | rfl
      · exact .refl _ d
      · have hback := laws.keeps_write_read connection opened d
        rw [hselected] at hback
        exact hback
    · intro connection' opened' hopens' hnone
      obtain ⟨rfl, rfl⟩ := hopens.unique hopens'
      rw [hread] at hreason
      refine hreason.resolve_right ?_
      rintro ⟨step, fault, hstep⟩
      rw [hnone step] at hstep
      cases hstep

omit laws

/-! ### Histories -/

def afterRuns (S : Storage World Connection) (w : World) : List Run → World
  | [] => w
  | r :: runs => afterRuns S (r.on S w).2 runs

theorem on_of_error {r : Run} {u : Usage} (h : r.parsed = .error u) (w : World) : r.on S w = (.usage u, w) := by
  rw [Run.on, h]

theorem on_of_ok {r : Run} {i : Invocation} (h : r.parsed = .ok i) (w : World) :
    r.on S w = (endingOf ((r.perform S i).run w).1, ((r.perform S i).run w).2) := by
  rw [Run.on, h]

/-- A command that needs no database changes nothing. -/
theorem snd_on_of_ne_onTasks {r : Run} {i : Invocation} (h : r.parsed = .ok i)
    (hcommand : ∀ c, i.command ≠ .onTasks c) (w : World) : (r.on S w).2 = w := by
  rw [on_of_ok h, Run.perform]
  cases hc : i.command with
  | onTasks c => exact absurd hc (hcommand c)
  | nextDate date recurrence reference => rfl
  | check rule => rfl

include laws

/-- One run leaves the tasks of a database as they were, or as its command makes them. -/
theorem tasks_on {d : Database} (hside : ∀ other, d ∉ v.sides other) (r : Run) (w : World) :
    v.tasks (r.on S w).2 d = v.tasks w d ∨
      ∃ c : TaskCommand, c.Makes r.settings r.now r.answer? (v.tasks w d) (v.tasks (r.on S w).2 d) := by
  cases hparsed : r.parsed with
  | error u => exact .inl (by rw [on_of_error hparsed])
  | ok i =>
    by_cases hcommand : ∃ c, i.command = .onTasks c
    · obtain ⟨c, hc⟩ := hcommand
      have hperform : r.perform S i =
          S.withTasks (r.databasePath i) r.now fun tasks => c.act tasks r.settings r.now r.answer? := by
        rw [Run.perform, hc]
      rw [on_of_ok hparsed, hperform]
      rcases onTasks_cases laws r.settings r.now r.answer? (r.databasePath i) c w with
        ⟨e, after, hrun, hkeeps, -⟩ | ⟨report, u, after, hrun, hmakes, hsaves⟩
      · rw [hrun]
        exact .inl ((hkeeps d).tasks_eq fun other _ => hside other)
      · rw [hrun]
        by_cases hd : v.selected? S (r.databasePath i) w = some d
        · refine .inr ⟨c, ?_⟩
          rw [hd] at hmakes
          rw [hsaves.tasks_eq d hd]
          exact hmakes
        · exact .inl ((hsaves.keeps d hd).tasks_eq fun other _ => hside other)
    · rw [not_exists] at hcommand
      exact .inl (by rw [snd_on_of_ne_onTasks hparsed hcommand])

/-- **What every command keeps is kept by any runs**, in every database that has not the name of another one's
side file. -/
theorem tasks_afterRuns {P : Table → Prop} {d : Database} (hside : ∀ other, d ∉ v.sides other) (runs : List Run)
    (hkeeps : ∀ r ∈ runs, ∀ c t u, TaskCommand.Makes r.settings r.now r.answer? t c u → P t → P u)
    (w : World) (hstart : P (v.tasks w d)) : P (v.tasks (afterRuns S w runs) d) := by
  induction runs generalizing w with
  | nil => exact hstart
  | cons r runs ih =>
    refine ih (fun r' hr' => hkeeps r' (List.mem_cons_of_mem r hr')) _ ?_
    rcases tasks_on laws hside r w with heq | ⟨c, hmakes⟩
    · rw [heq]
      exact hstart
    · exact hkeeps r List.mem_cons_self c _ _ hmakes hstart

/-! ### The last of many runs -/

/-- **A run changes the database that it selects, and that by its command alone**, over every lawful storage,
whatever runs came before and whatever the databases held at first.  Arguments without a meaning, and commands
that need no database, change nothing.  Any other command selects the database that is named for it, else the one
in the settings.  If it fails or only looks, all databases keep their tasks.  If it succeeds, the selected one has
the tasks that the command makes of those that it had, and the others keep theirs.  Only the side files of the
selected database are excepted.  Where nothing is refused, a command succeeds exactly if there is something that
it makes. -/
theorem lastRun_effect (start : World) (history : List Run) (r : Run) :
    let before := afterRuns S start history
    let after := (r.on S before).2
    let exitCode := (r.on S before).1.exitCode
    (∀ usage, r.parsed = .error usage → after = before) ∧
      (∀ i, r.parsed = .ok i → (∀ c, i.command ≠ .onTasks c) → after = before) ∧
      ∀ database c, r.parsed = .ok ⟨database, .onTasks c⟩ →
        let settings := r.loaded.toOption.getD .standard
        let path := database.getD settings.databasePath
        let selected? := v.selected? S path before
        let tasks := v.tasksAt before selected?
        (exitCode ≠ 0 ∨ c.Looks r.answer? → ∀ d, v.Keeps selected? before after d) ∧
          (exitCode = 0 → ∃ u, c.Makes settings r.now r.answer? tasks u ∧ v.Saves selected? before after u) ∧
          ∀ connection opened, S.Opens path before connection opened →
            (∀ step, S.refuses connection opened step = none) →
            (exitCode = 0 ↔ ∃ u, c.Makes settings r.now r.answer? tasks u) := by
  intro before after exitCode
  refine ⟨fun usage h => congrArg Prod.snd (on_of_error h before), fun i h hi => snd_on_of_ne_onTasks h hi before, ?_⟩
  intro database c h settings path selected? tasks
  have hon : r.on S before = _ := on_of_ok h before
  have hafter : after = _ := congrArg Prod.snd hon
  have hcode : exitCode = _ := congrArg (fun result => Ending.exitCode result.1) hon
  rcases onTasks_cases laws settings r.now r.answer? path c before with
    ⟨e, world, hrun, hkeeps, hreason⟩ | ⟨report, u, world, hrun, hmakes, hsaves⟩
  · have hperform : (r.perform S ⟨database, .onTasks c⟩).run before = (.error e, world) := hrun
    rw [hperform] at hafter hcode
    have hfails : exitCode ≠ 0 := by
      rw [hcode]
      exact Nat.one_ne_zero
    rw [hafter]
    refine ⟨fun _ => hkeeps, fun hzero => absurd hzero hfails, fun connection opened hopens hnone => ?_⟩
    refine iff_of_false hfails ?_
    rintro ⟨u, hu⟩
    exact hreason connection opened hopens hnone u hu
  · have hperform : (r.perform S ⟨database, .onTasks c⟩).run before = (.ok report, world) := hrun
    rw [hperform] at hafter hcode
    rw [hafter]
    refine ⟨fun hlooks => ?_, fun _ => ⟨u, hmakes, hsaves⟩, fun _ _ _ _ => iff_of_true hcode ⟨u, hmakes⟩⟩
    have hc := hlooks.resolve_left (not_not_intro hcode)
    rw [hmakes.eq_of_looks hc] at hsaves
    exact hsaves.keeps_of_eq

omit laws

/-- With a task in each of two databases on a disk, a bad date leaves both as they are.  Deleting a task changes
nothing where nobody answers whether it is meant, and where the answer is yes the task is missing, but in its own
database only. -/
theorem lastRun_effect_beside_other_database :
    let now : Moment := .midnight ((Date.of? 2025 3 10).get (by decide))
    let runOn (path : String) (c : TaskCommand) (answer? : Option Bool) : Run :=
      ⟨.ok ⟨some path, .onTasks c⟩, .ok .standard, now, answer?⟩
    let before := afterRuns Disk.storage .empty
      [runOn "a.db" (.add "Rent" none none none) none, runOn "b.db" (.add "Gym" none none none) none]
    let failing := runOn "a.db" (.edit 1 none (some "someday") none false none false) none
    let asking := runOn "a.db" (.delete 1 false) none
    let deleting := runOn "a.db" (.delete 1 false) (some true)
    Disk.storage.Lawful Disk.view ∧
      (failing.on Disk.storage before).1.exitCode = 1 ∧
      Disk.view.tasks (failing.on Disk.storage before).2 ⟨["a.db"]⟩ = Disk.view.tasks before ⟨["a.db"]⟩ ∧
      (asking.on Disk.storage before).1.exitCode = 0 ∧
      Disk.view.tasks (asking.on Disk.storage before).2 ⟨["a.db"]⟩ = Disk.view.tasks before ⟨["a.db"]⟩ ∧
      (deleting.on Disk.storage before).1.exitCode = 0 ∧
      (Disk.view.tasks before ⟨["a.db"]⟩).delete 1 =
        .ok (Disk.view.tasks (deleting.on Disk.storage before).2 ⟨["a.db"]⟩) ∧
      Disk.view.tasks (deleting.on Disk.storage before).2 ⟨["b.db"]⟩ = Disk.view.tasks before ⟨["b.db"]⟩ := by
  intro now runOn before failing asking deleting
  have hfails : (failing.on Disk.storage before).1.exitCode = 1 := by decide +kernel
  have hasks : (asking.on Disk.storage before).1.exitCode = 0 := by decide +kernel
  have hdeletes : (deleting.on Disk.storage before).1.exitCode = 0 := by decide +kernel
  have hselected : Disk.view.selected? Disk.storage "a.db" before = some ⟨["a.db"]⟩ := by decide +kernel
  obtain ⟨-, -, hfailing⟩ := lastRun_effect Disk.storage_lawful .empty
    [runOn "a.db" (.add "Rent" none none none) none, runOn "b.db" (.add "Gym" none none none) none] failing
  obtain ⟨-, -, hasking⟩ := lastRun_effect Disk.storage_lawful .empty
    [runOn "a.db" (.add "Rent" none none none) none, runOn "b.db" (.add "Gym" none none none) none] asking
  obtain ⟨-, -, hdeleting⟩ := lastRun_effect Disk.storage_lawful .empty
    [runOn "a.db" (.add "Rent" none none none) none, runOn "b.db" (.add "Gym" none none none) none] deleting
  obtain ⟨hkept, -⟩ := hfailing (some "a.db") _ rfl
  obtain ⟨hasked, -⟩ := hasking (some "a.db") _ rfl
  obtain ⟨-, hmade, -⟩ := hdeleting (some "a.db") _ rfl
  obtain ⟨u, hu, hsaves⟩ := hmade hdeletes
  have hside : ∀ d : Place, d ∉ Disk.view.sides ⟨["a.db"]⟩ →
      ∀ selected, Disk.view.selected? Disk.storage "a.db" before = some selected →
        d ∉ Disk.view.sides selected := by
    intro d hd selected h
    rw [hselected] at h
    cases h
    exact hd
  refine ⟨Disk.storage_lawful, hfails, ?_, hasks, ?_, hdeletes, ?_, ?_⟩
  · exact (hkept (.inl (ne_of_eq_of_ne hfails Nat.one_ne_zero)) _).tasks_eq (hside _ (by decide))
  · exact (hasked (.inr (.delete (by simp))) _).tasks_eq (hside _ (by decide))
  · have htasks : Disk.view.tasksAt before (Disk.view.selected? Disk.storage "a.db" before) =
        Disk.view.tasks before ⟨["a.db"]⟩ := by
      rw [hselected]
      rfl
    rw [← htasks, hsaves.tasks_eq _ hselected]
    cases hu with
    | cancel hno => exact absurd rfl hno
    | delete _ hok => exact hok
  · have hother : Disk.view.selected? Disk.storage "a.db" before ≠ some ⟨["b.db"]⟩ := by
      rw [hselected]
      decide
    exact (hsaves.keeps _ hother).tasks_eq (hside _ (by decide))

/-- Whether a run adds a task to a database or lists its tasks, another database that has the name of its
journal loses all tasks, and so do two that have the names of its log and of the index of the log.  Deleting
without force deletes the task where the answer is yes. -/
theorem opening_clears_database_beside :
    let now : Moment := .midnight ((Date.of? 2025 3 10).get (by decide))
    let runOn (path : String) (c : TaskCommand) (answer? : Option Bool) : Run :=
      ⟨.ok ⟨some path, .onTasks c⟩, .ok .standard, now, answer?⟩
    let before := afterRuns Disk.storage .empty
      [runOn "scheduler.db" (.add "t0" none none none) none,
        runOn "scheduler.db-journal" (.add "t1" none none none) none]
    let logged := afterRuns Disk.storage before
      [runOn "scheduler.db-wal" (.add "t2" none none none) none,
        runOn "scheduler.db-shm" (.add "t3" none none none) none]
    let adding := (runOn "scheduler.db" (.add "t4" none none none) none).on Disk.storage before
    let listing := (runOn "scheduler.db" (.list none none) none).on Disk.storage logged
    let deleting := (runOn "scheduler.db" (.delete 1 false) (some true)).on Disk.storage before
    let selected : Place := ⟨["scheduler.db"]⟩
    (before.tasksIn (selected.beside "-journal")).rows = [⟨1, "20250310", "t1", "", ""⟩] ∧
      (logged.tasksIn (selected.beside "-wal")).rows = [⟨1, "20250310", "t2", "", ""⟩] ∧
      (logged.tasksIn (selected.beside "-shm")).rows = [⟨1, "20250310", "t3", "", ""⟩] ∧
      (adding.1.exitCode = 0 ∧ (adding.2.tasksIn (selected.beside "-journal")).rows = []) ∧
      (listing.1.exitCode = 0 ∧ (listing.2.tasksIn (selected.beside "-journal")).rows = [] ∧
        (listing.2.tasksIn (selected.beside "-wal")).rows = [] ∧
        (listing.2.tasksIn (selected.beside "-shm")).rows = []) ∧
      (before.tasksIn selected).rows = [⟨1, "20250310", "t0", "", ""⟩] ∧
      deleting.1.exitCode = 0 ∧ (deleting.2.tasksIn selected).rows = [] := by
  decide +kernel

end Agenda.CommandLine
