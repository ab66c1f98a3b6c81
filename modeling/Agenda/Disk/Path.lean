/-!
# Paths and places

A path is a text that leads through directories to a file; a place is where it leads.  Different paths may
lead to one place.

* `Path.ofText` — the steps of a path.
* `Place.step` — the place one step further.
-/

namespace Agenda

/-- The steps that a path takes, from the root or from the working directory. -/
structure Path where
  isAbsolute : Bool
  steps : List String
deriving DecidableEq, Repr

/-- The parts of a text between slashes. -/
def partsOf (text : String) : List String := (text.toList.splitOn '/').map String.ofList

/-- Whether a text begins at the root. -/
def beginsAtRoot (text : String) : Bool := text.toList.head? == some '/'

def longestName : Nat := 255

def isLongName (name : String) : Bool := longestName < name.utf8ByteSize

namespace Path

/-- The steps of a path.  Slashes in a row count as one, and a point is a step in front only. -/
def ofText (text : String) : Path where
  isAbsolute := beginsAtRoot text
  steps := ((partsOf text).take 1).filter (· != "") ++
    ((partsOf text).drop 1).filter fun part => part != "" && part != "."

/-- The path without its last step. -/
def parent? (path : Path) : Option Path :=
  if path.steps = [] then none else some { path with steps := path.steps.dropLast }

def isEmpty (path : Path) : Bool := !path.isAbsolute && path.steps.isEmpty

def size (path : Path) : Nat := path.steps.foldl (fun n step => n + 1 + step.utf8ByteSize) 0

def longest : Nat := 4096

/-- Whether no file can be under a path, for it is too long or holds a NUL character. -/
def isImpossible (path : Path) : Bool :=
  longest < path.size || path.steps.any fun step => step.toList.contains '\x00'

end Path

/-- A place, by the names that lead to it from the working directory.  A slash in front stands for the
root, and two points stand for the directory above. -/
structure Place where
  names : List String
deriving DecidableEq, Repr

namespace Place

def here : Place := ⟨[]⟩

def root : Place := ⟨["/"]⟩

/-- Where a text begins. -/
def start (isAbsolute : Bool) : Place := if isAbsolute then root else here

/-- The working directory, one above it, or the root.  They are directories always. -/
def isBase (place : Place) : Bool := place == root || place.names.all (· == "..")

def above (place : Place) : Place :=
  if place = root then root
  else if place.isBase then ⟨place.names ++ [".."]⟩
  else ⟨place.names.dropLast⟩

/-- The place one step further: a point stays, two points go back. -/
def step (place : Place) (name : String) : Place :=
  if name = "" ∨ name = "." then place
  else if name = ".." then place.above
  else ⟨place.names ++ [name]⟩

/-- The bytes that are reckoned for the path of the working directory. -/
def sizeOfHere : Nat := 15

def size (place : Place) : Nat :=
  match place.names with
  | "/" :: names => names.foldl (fun n name => n + 1 + name.utf8ByteSize) 0
  | names => names.foldl (fun n name => n + 1 + name.utf8ByteSize) sizeOfHere

def name (place : Place) : String := place.names.getLast?.getD ""

/-- The place in the same directory whose name has an ending more. -/
def beside (place : Place) (ending : String) : Place := ⟨place.names.dropLast ++ [place.name ++ ending]⟩

end Place

example : (Path.ofText "./a//b/./c/").steps = [".", "a", "b", "c"] := by decide

example : (partsOf "./a/../b/").foldl Place.step .here = ⟨["b"]⟩ := by decide

end Agenda
