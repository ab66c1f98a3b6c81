import Agenda.Disk.Opening
import Agenda.Proofs.Disk.Entries
import Agenda.Proofs.Storage

/-!
# The disk as a lawful storage

Where the database under a path is depends on the path alone.  Opening it makes at most an empty file there, and
making it ready takes away at most the files beside it that have the names of its traces; they may hold the
tasks of other databases.  So the disk keeps the laws of a storage.

* `Disk.targetPlace?` — the place of the database to which a target leads.
* `Disk.view` — the databases on a disk, by their places.
* `Disk.storage_lawful` — the laws.
-/

namespace Agenda

namespace Place

def ofText (text : String) : Place := (partsOf text).foldl step (start (beginsAtRoot text))

theorem name_beside (place : Place) (ending : String) : (place.beside ending).name = place.name ++ ending := by
  show (place.names.dropLast ++ [place.name ++ ending]).getLast?.getD "" = _
  rw [List.getLast?_concat, Option.getD_some]

/-- A longer name is another name. -/
theorem beside_ne (place : Place) {ending : String} (h : ending ≠ "") : place.beside ending ≠ place := by
  intro heq
  have hname := place.name_beside ending
  rw [heq] at hname
  exact h (by simpa using hname.symm)

theorem beside_ne_of_mem (place : Place) {ending : String} (h : ending ∈ Storage.sideEndings) :
    place.beside ending ≠ place := by
  refine place.beside_ne ?_
  rintro rfl
  exact absurd h (by decide)

end Place

/-- The place of an open database; none if it is in memory, or if it is a directory always. -/
def Opened.place? : Opened → Option Place
  | .stored place _ => if place.isBase then none else some place
  | .lasting | .passing => none

def Address.place? : Address → Option Place
  | .memory _ => none
  | .file path _ => if (Place.ofText path).isBase then none else some (.ofText path)

namespace Disk

/-- The place of the database to which a target leads; none if it is in memory, or if the path is no address. -/
def targetPlace? : Target → Option Place
  | .memory => none
  | .file path => (Address.ofText path).toOption.bind Address.place?

/-- The databases on a disk, by their places. -/
def view : Storage.View Disk Opened Place where
  tasks := tasksIn
  located _ := targetPlace?
  beside := Place.beside
  database? := Opened.place?

variable {disk after : Disk} {place : Place}

/-! ### Places of files -/

theorem eq_of_approach? {step : String} {next : Place} (h : disk.approach? place step = some next) :
    next = place.step step := by
  rw [approach?] at h
  split at h
  · exact (Option.some.inj h).symm
  · split at h
    · cases h
    · split at h
      · exact (Option.some.inj h).symm
      · split at h
        · cases h
        · exact (Option.some.inj h).symm
      · cases h

theorem eq_of_foldlM_approach? {steps : List String} {start next : Place}
    (h : steps.foldlM disk.approach? start = some next) : next = steps.foldl Place.step start := by
  induction steps generalizing start with
  | nil => exact (Option.some.inj h).symm
  | cons step steps ih =>
    rw [List.foldlM_cons] at h
    obtain ⟨between, hbetween, hnext⟩ := Option.bind_eq_some_iff.1 h
    rw [List.foldl_cons, ← eq_of_approach? hbetween]
    exact ih hnext

/-- A file is found, if at all, in the place to which its path leads. -/
theorem eq_of_locate? {path : String} (h : disk.locate? path = some place) : place = .ofText path := by
  rw [locate?] at h
  obtain ⟨found, hfound, h⟩ := Option.bind_eq_some_iff.1 h
  split at h
  · cases h
  · rw [← Option.some.inj h]
    exact eq_of_foldlM_approach? hfound

/-! ### Opening -/

theorem tasksIn_openFile (disk : Disk) (place : Place) (access : Access) :
    (disk.openFile place access).2.tasksIn = disk.tasksIn := by
  unfold openFile
  split
  · rename_i hfree
    exact tasksIn_put_of_free hfree (by simp)
  all_goals rfl

theorem tasksIn_openAddress (disk : Disk) (address : Address) :
    (disk.openAddress address).2.tasksIn = disk.tasksIn := by
  cases address with
  | memory isShared => cases isShared <;> rfl
  | file path access =>
    rw [openAddress]
    split
    · rfl
    · apply tasksIn_openFile

/-- Opening a database changes no tasks. -/
theorem tasksIn_connect (disk : Disk) (target : Target) : (disk.connect target).2.tasksIn = disk.tasksIn := by
  cases target with
  | memory => rfl
  | file path =>
    rw [connect]
    split
    · rfl
    · split
      · rfl
      · apply tasksIn_openAddress

theorem exists_of_openFile {access : Access} {opened : Opened}
    (h : disk.openFile place access = (.ok opened, after)) : ∃ isReadOnly, opened = .stored place isReadOnly := by
  unfold openFile at h
  split at h <;> cases h <;> exact ⟨_, rfl⟩

theorem place?_of_openAddress {address : Address} {opened : Opened}
    (h : disk.openAddress address = (.ok opened, after)) : opened.place? = address.place? := by
  cases address with
  | memory isShared => cases isShared <;> cases h <;> rfl
  | file path access =>
    rw [openAddress] at h
    split at h
    · cases h
    · rename_i place hplace
      obtain ⟨isReadOnly, rfl⟩ := exists_of_openFile h
      obtain rfl := eq_of_locate? hplace
      rfl

theorem place?_of_connect {target : Target} {opened : Opened}
    (h : disk.connect target = (.ok opened, after)) : opened.place? = targetPlace? target := by
  cases target with
  | memory =>
    cases h
    rfl
  | file path =>
    rw [connect] at h
    split at h
    · cases h
    · rw [targetPlace?]
      split at h
      · cases h
      · rename_i address haddress
        rw [haddress]
        exact place?_of_openAddress h

/-! ### Making ready -/

theorem keeps_removeFile {side : Place} (h : side ∈ view.sides place) (disk : Disk) (other : Place) :
    view.Keeps (some place) disk (disk.removeFile side) other := by
  rcases entry?_removeFile disk side other with heq | ⟨rfl, hnone⟩
  · exact .inl (tasksIn_of_entry?_eq heq)
  · refine .inr ⟨⟨place, rfl, h⟩, ?_⟩
    show ((disk.removeFile other).tasksIn other).rows = []
    rw [tasksIn_eq_empty (by simp [hnone])]
    rfl

theorem keeps_removeLog (disk : Disk) (place other : Place) :
    view.Keeps (some place) disk (disk.removeLog place) other := by
  rw [removeLog]
  split
  · exact (keeps_removeFile (by simp [Storage.View.sides, Storage.sideEndings, view, logEnding]) disk other).trans
      (keeps_removeFile (by simp [Storage.View.sides, Storage.sideEndings, view, indexEnding]) _ other)
  · exact .refl disk other

theorem keeps_removeJournal (disk : Disk) (place other : Place) :
    view.Keeps (some place) disk (disk.removeFile (place.beside journalEnding)) other :=
  keeps_removeFile (by simp [Storage.View.sides, Storage.sideEndings, view, journalEnding]) disk other

/-- An empty file becomes a database without tasks. -/
theorem keeps_prepareNew (h : disk.entry? place = some (.text "")) (other : Place) :
    view.Keeps (some place) disk (disk.prepareNew place).2 other := by
  have hcleared : ∀ other, view.Keeps (some place) disk
      ((disk.removeFile (place.beside journalEnding)).removeFile (place.beside logEnding)) other := fun other =>
    (keeps_removeJournal disk place other).trans
      (keeps_removeFile (by simp [Storage.View.sides, Storage.sideEndings, view, logEnding]) _ other)
  rw [prepareNew]
  split
  · exact keeps_removeJournal disk place other
  · split
    · exact keeps_removeJournal disk place other
    · have hbase : ¬ place.isBase := not_isBase h (by simp)
      by_cases hother : other = place
      · subst hother
        refine .inl ?_
        show tasksIn (put _ other (.table .empty)) other = disk.tasksIn other
        rw [tasksIn_of_table? (table?_put_self hbase), tasksIn_eq_empty (by simp [h])]
      · exact (hcleared other).trans (.inl (tasksIn_of_entry?_eq (entry?_put_of_ne hbase hother)))

theorem keeps_prepareOld (disk : Disk) (place : Place) (isReadOnly : Bool) (other : Place) :
    view.Keeps (some place) disk (disk.prepareOld place isReadOnly).2 other := by
  have hjournal := keeps_removeJournal disk place other
  rw [prepareOld]
  split
  · exact .refl disk other
  · split
    · exact .refl disk other
    · split
      · exact hjournal
      · split
        · exact hjournal.trans (keeps_removeLog _ place other)
        · exact hjournal.trans (keeps_removeLog _ place other)

theorem keeps_prepare (disk : Disk) (place : Place) (isReadOnly : Bool) (other : Place) :
    view.Keeps (some place) disk (disk.prepare place isReadOnly).2 other := by
  unfold prepare
  split
  · exact .refl disk other
  · exact .refl disk other
  · rename_i hempty
    exact keeps_prepareNew hempty other
  · apply keeps_prepareOld

/-- A place that is always a directory does not become a database. -/
theorem prepare_of_isBase (h : place.isBase) (isReadOnly : Bool) :
    disk.prepare place isReadOnly = (.error .unreadable, disk) := by
  unfold prepare
  rw [entry?_of_isBase h]

theorem keeps_migrate (disk : Disk) (opened : Opened) (other : Place) :
    view.Keeps opened.place? disk (disk.migrate opened).2 other := by
  cases opened with
  | lasting | passing => exact .refl disk other
  | stored place isReadOnly =>
    show view.Keeps (if place.isBase then none else some place) disk (disk.prepare place isReadOnly).2 other
    split
    · rename_i hbase
      rw [prepare_of_isBase hbase]
      exact .refl disk other
    · exact keeps_prepare disk place isReadOnly other

theorem table_of_migrate {opened : Opened} (h : disk.migrate opened = (.ok (), after)) :
    opened.table after = opened.table disk := by
  cases opened with
  | lasting | passing => rfl
  | stored place isReadOnly =>
    have hafter : (disk.prepare place isReadOnly).2 = after := congrArg Prod.snd h
    show after.tasksIn place = disk.tasksIn place
    rw [← hafter]
    exact (keeps_prepare disk place isReadOnly place).tasks_self (fun _ => place.beside_ne_of_mem)

/-! ### Saving -/

theorem saves_save (disk : Disk) (opened : Opened) (t : Table) :
    view.Saves opened.place? disk (opened.save disk t) t := by
  cases opened with
  | lasting | passing => exact ⟨fun _ h => (by cases h), fun other _ => .refl disk other⟩
  | stored place isReadOnly =>
    show view.Saves (if place.isBase then none else some place) disk (disk.put place (.table t)) t
    split
    · rename_i hbase
      rw [put, if_pos hbase]
      exact ⟨fun _ h => (by cases h), fun other _ => .refl disk other⟩
    · rename_i hbase
      refine ⟨fun other h => ?_, fun other h => .inl ?_⟩
      · obtain rfl := Option.some.inj h
        exact tasksIn_of_table? (table?_put_self hbase)
      · refine tasksIn_of_entry?_eq (entry?_put_of_ne hbase ?_)
        rintro rfl
        exact h rfl

/-- **The disk keeps the laws of a storage.** -/
theorem storage_lawful : storage.Lawful view where
  beside_ne place _ h := place.beside_ne_of_mem h
  tasks_makeDirectories path disk place := congrFun (tasksIn_makeAlong path.isAbsolute path.steps.reverse) place
  keeps_connect target disk place := .inl (congrFun (tasksIn_connect disk target) place)
  database?_of_connect target disk opened after h := place?_of_connect h
  read_of_connect target disk opened after h hplace := by
    cases opened with
    | lasting | passing => rfl
    | stored place isReadOnly =>
      have hbase : place.isBase := by
        by_contra hbase
        have hsome : Opened.place? (.stored place isReadOnly) = some place := if_neg hbase
        exact absurd (hsome.symm.trans hplace) (by simp)
      show after.tasksIn place = .empty
      exact tasksIn_eq_empty (by simp [entry?_of_isBase hbase])
  keeps_migrate opened disk place := keeps_migrate disk opened place
  read_of_migrate opened disk after h := table_of_migrate h
  read_eq opened disk place h := by
    cases opened with
    | lasting | passing => cases h
    | stored other isReadOnly =>
      have hother : (if other.isBase then none else some other) = some place := h
      split at hother
      · cases hother
      · obtain rfl := Option.some.inj hother
        rfl
  saves_write opened t disk := saves_save disk opened t
  keeps_close opened disk place := .refl disk place

end Disk

end Agenda
