import Agenda.Disk.Address
import Agenda.Disk.Basic
import Agenda.Storage

/-!
# Opening databases

A database that does not exist is made when it is opened.  Next to a database may lie the traces of a change
that was broken off: a journal, and a log with its index.  They are removed when the database is made ready,
whatever they are.

The disk is one storage among others: what is said of runs of the program asks of a storage only that it keeps
the laws of `Storage.Lawful`.

* `Disk.locate?` — the place of a file.
* `Disk.connect`, `Disk.migrate` — a database is opened and made ready.
* `Disk.storage` — the disk as a storage of tasks.
* `Disk.placesOf` — the places that an opening may touch.
-/

namespace Agenda

inductive Opened
  /-- In a place on the disk. -/
  | stored (place : Place) (isReadOnly : Bool)
  /-- In memory, as long as the program runs. -/
  | lasting
  /-- In memory, and new each time that it is asked. -/
  | passing
deriving DecidableEq, Repr

namespace Disk

/-! ### Places of files -/

def longestFullPath : Nat := 504

def longestPartialPath : Nat := 511

/-- Takes a step to a file.  Unlike a path through directories, it may go through what is missing. -/
def approach? (disk : Disk) (place : Place) (step : String) : Option Place :=
  let next := place.step step
  if step = "" ∨ step = "." ∨ step = ".." then some next
  else if longestPartialPath < next.size then none
  else match disk.entry? place with
    | none => some next
    | some .directory => if isLongName step then none else some next
    | some _ => none

def locate? (disk : Disk) (path : String) : Option Place := do
  let place ← (partsOf path).foldlM disk.approach? (.start (beginsAtRoot path))
  if place = .root ∨ longestFullPath < place.size ∨ !disk.isDirectory place.above then none else some place

/-! ### Opening -/

/-- Opens the file in a place, which may have to be made. -/
def openFile (disk : Disk) (place : Place) (access : Access) : Except TaskError Opened × Disk :=
  match disk.entry? place, access with
  | none, .create => (.ok (.stored place false), disk.put place (.text ""))
  | some .directory, .look => (.ok (.stored place true), disk)
  | none, _ | some .directory, _ => (.error (.database .cannotOpen), disk)
  | some _, access => (.ok (.stored place (access == .look)), disk)

def openAddress (disk : Disk) : Address → Except TaskError Opened × Disk
  | .memory true => (.ok .lasting, disk)
  | .memory false => (.ok .passing, disk)
  | .file path access =>
      match disk.locate? path with
      | none => (.error (.database .cannotOpen), disk)
      | some place => disk.openFile place access

def connect (disk : Disk) : Target → Except TaskError Opened × Disk
  | .memory => (.ok .lasting, disk)
  | .file path =>
      if path.toList.contains '\x00' then (.error (.database .nulInPath), disk)
      else match Address.ofText path with
        | .error fault => (.error (.database fault), disk)
        | .ok address => disk.openAddress address

/-! ### Making ready -/

def journalEnding : String := "-journal"

def logEnding : String := "-wal"

def indexEnding : String := "-shm"

def removeLog (disk : Disk) (place : Place) : Disk :=
  if disk.isFile (place.beside logEnding) then
    (disk.removeFile (place.beside logEnding)).removeFile (place.beside indexEnding)
  else disk

/-- Makes a table of an empty file. -/
def prepareNew (disk : Disk) (place : Place) : Except DatabaseFault Unit × Disk :=
  let journal := place.beside journalEnding
  let log := place.beside logEnding
  let cleared := disk.removeFile journal
  if disk.isDirectory log then (.error .undeletable, cleared)
  else if disk.isDirectory journal ∨ isLongName journal.name then (.error .cannotOpen, cleared)
  else (.ok (), (cleared.removeFile log).put place (.table .empty))

/-- Checks that a file with something in it is a table. -/
def prepareOld (disk : Disk) (place : Place) (isReadOnly : Bool) : Except DatabaseFault Unit × Disk :=
  let journal := place.beside journalEnding
  let log := place.beside logEnding
  let cleared := disk.removeFile journal
  if disk.isDirectory journal then (.error .unreadable, disk)
  else if isReadOnly ∧ disk.isFile journal then (.error .brokenOff, disk)
  else if disk.isDirectory log then (.error .cannotOpen, cleared)
  else if (disk.table? place).isNone then (.error .notADatabase, cleared.removeLog place)
  else (.ok (), cleared.removeLog place)

/-- Makes the database in a place ready for tasks. -/
def prepare (disk : Disk) (place : Place) (isReadOnly : Bool) : Except DatabaseFault Unit × Disk :=
  match disk.entry? place, isReadOnly with
  | some .directory, _ => (.error .unreadable, disk)
  | some (.text ""), true => (.error .readOnly, disk)
  | some (.text ""), false => disk.prepareNew place
  | _, isReadOnly => disk.prepareOld place isReadOnly

def migrate (disk : Disk) : Opened → Except TaskError Unit × Disk
  | .stored place isReadOnly =>
      let (result, after) := disk.prepare place isReadOnly
      (result.mapError .unprepared, after)
  | .lasting | .passing => (.ok (), disk)

/-! ### What an opening may touch -/

/-- The places on the way along the steps of a text. -/
def placesAlong (text : String) : List Place :=
  let parts := partsOf text
  (List.range (parts.length + 1)).map fun n => (parts.take n).foldl Place.step (.start (beginsAtRoot text))

/-- The places that opening the database under a path looks at or changes. -/
def placesOf (path : String) : List Place :=
  let file := match Address.ofText path with
    | .ok (.file file _) => placesAlong file
    | _ => []
  let beside := file.getLast?.elim [] fun place =>
    [place.beside journalEnding, place.beside logEnding, place.beside indexEnding]
  (placesAlong path ++ file ++ beside).eraseDups.filter fun place => !place.isBase

end Disk

namespace Opened

def table (disk : Disk) : Opened → Table
  | .stored place _ => (disk.table? place).getD .empty
  | _ => .empty

/-- The disk with other tasks in a database; what is kept in memory is lost. -/
def save (disk : Disk) (table : Table) : Opened → Disk
  | .stored place _ => disk.put place (.table table)
  | _ => disk

/-- What a database refuses: one that can only be read is not written to, and one that is new each time that it
is asked holds no tasks to ask for. -/
def refuses : Opened → Refusals
  | .stored _ true, .write => some .readOnly
  | .passing, .select | .passing, .write => some .noTable
  | _, _ => none

end Opened

def Disk.storage : Storage Disk Opened where
  holds path disk := disk.holds path
  makeDirectories path disk := disk.makeDirectories path
  connect target := fun disk => disk.connect target
  migrate opened := fun disk => disk.migrate opened
  read opened disk := opened.table disk
  refuses opened _ := opened.refuses
  write opened table disk := opened.save disk table
  close _ disk := disk

end Agenda
