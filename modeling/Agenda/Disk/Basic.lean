import Agenda.Disk.Path
import Agenda.Task.Table

/-!
# The disk

The disk holds directories, tables of tasks and other texts in different places.

* `Disk.entry?` — what is in a place.
* `Disk.find` — the place to which a path leads; every step but the last must be taken from a directory.
* `Disk.makeDirectories` — the disk with a directory under a path, and the directories on the way.
-/

namespace Agenda

inductive Entry
  | directory
  | table (t : Table)
  /-- A file that is no table of tasks. -/
  | text (s : String)

/-- The places with something in them. -/
structure Disk where
  entries : List (Place × Entry)

/-- Why a path leads nowhere. -/
inductive Trouble
  /-- Something is missing on the way or at its end. -/
  | missing
  /-- Something is in the way. -/
  | blocked
deriving DecidableEq, Repr

namespace Disk

/-- The disk with an empty working directory. -/
def empty : Disk := ⟨[]⟩

def entry? (disk : Disk) (place : Place) : Option Entry :=
  if place.isBase then some .directory
  else (disk.entries.find? fun entry => entry.1 == place).map Prod.snd

def isDirectory (disk : Disk) (place : Place) : Bool :=
  match disk.entry? place with
  | some .directory => true
  | _ => false

/-- Whether a place holds a file with something in it. -/
def isFile (disk : Disk) (place : Place) : Bool :=
  match disk.entry? place with
  | some (.table _) => true
  | some (.text s) => s != ""
  | _ => false

def table? (disk : Disk) (place : Place) : Option Table :=
  match disk.entry? place with
  | some (.table t) => some t
  | _ => none

/-- The disk with something else in a place, unless the place is always a directory. -/
def put (disk : Disk) (place : Place) (entry : Entry) : Disk :=
  if place.isBase then disk
  else if disk.entries.any (fun old => old.1 == place) then
    ⟨disk.entries.map fun old => if old.1 = place then (place, entry) else old⟩
  else ⟨disk.entries ++ [(place, entry)]⟩

/-- The disk without the file in a place, if there is one with something in it. -/
def removeFile (disk : Disk) (place : Place) : Disk :=
  if disk.isFile place then ⟨disk.entries.filter fun old => old.1 != place⟩ else disk

/-! ### Paths -/

/-- The place to which steps lead. -/
def walk (disk : Disk) (place : Place) : List String → Except Trouble Place
  | [] => if (disk.entry? place).isSome then pure place else throw .missing
  | step :: steps =>
      match disk.entry? place with
      | none => throw .missing
      | some .directory => if isLongName step then throw .blocked else walk disk (place.step step) steps
      | some _ => throw .blocked

def find (disk : Disk) (path : Path) : Except Trouble Place :=
  if path.isImpossible then throw .blocked else disk.walk (.start path.isAbsolute) path.steps

def holds (disk : Disk) (path : Path) : Bool := (disk.find path).toOption.isSome

def holdsDirectory (disk : Disk) (path : Path) : Bool := (disk.find path).toOption.any disk.isDirectory

/-! ### Making directories -/

def makeDirectory (disk : Disk) (path : Path) : Except Trouble Disk :=
  match path.steps.getLast? with
  | none => throw .blocked
  | some name => do
      if path.isImpossible then throw .blocked
      let above ← disk.find { path with steps := path.steps.dropLast }
      let place := above.step name
      if !disk.isDirectory above || name == "." || name == ".." || isLongName name ||
          (disk.entry? place).isSome then
        throw .blocked
      pure (disk.put place .directory)

/-- Makes the directory to which steps lead, given from the last to the first, and those on the way.  Tells
whether it is there, and the disk afterwards: what was made stays even if there is no going on. -/
def makeAlong (isAbsolute : Bool) (disk : Disk) : (steps : List String) → Bool × Disk
  | [] => (true, disk)
  | step :: before =>
      let path : Path := ⟨isAbsolute, before.reverse ++ [step]⟩
      match disk.makeDirectory path with
      | .ok after => (true, after)
      | .error .blocked => (disk.holdsDirectory path, disk)
      | .error .missing =>
          match makeAlong isAbsolute disk before with
          | (false, between) => (false, between)
          | (true, between) =>
              match between.makeDirectory path with
              | .ok after => (true, after)
              | .error _ => (between.holdsDirectory path, between)

def makeDirectories (disk : Disk) (path : Path) : Bool × Disk :=
  makeAlong path.isAbsolute disk path.steps.reverse

end Disk

end Agenda
