import Agenda.Task.Error
import Agenda.Text.Escape

/-!
# Addresses of databases

An address is the path of a file, or a text that begins with `file:` and adds options to a path.  In the
latter any byte may be written in hexadecimal behind a percent sign.  Some addresses stand for a database
that is kept in memory.

* `Address.ofText` — the address that a text is.
-/

namespace Agenda

open Text

inductive Access
  /-- It is made if it is missing. -/
  | create
  /-- It must be there. -/
  | change
  /-- It must be there and stays as it is. -/
  | look
deriving DecidableEq, Repr

inductive Address
  | file (path : String) (access : Access)
  /-- In memory, for all who ask for it or for one alone. -/
  | memory (isShared : Bool)
deriving DecidableEq, Repr

namespace Address

/-! ### Options -/

/-- The bytes that a text stands for.  A zero byte ends it. -/
def decoded : List Char → List UInt8
  | [] => []
  | '%' :: a :: b :: s =>
      match hexDigits? [a, b] with
      | some 0 => []
      | some n => n.toUInt8 :: decoded s
      | none => String.utf8EncodeChar '%' ++ decoded (a :: b :: s)
  | c :: s => String.utf8EncodeChar c ++ decoded s

/-- The text that bytes stand for; if they are none, every byte is a character. -/
def textOf (bytes : List UInt8) : String :=
  (String.fromUTF8? ⟨bytes.toArray⟩).getD (String.ofList (bytes.map fun b => Char.ofNat b.toNat))

def decodedText (s : List Char) : String := textOf (decoded s)

/-- A text up to a character, and what is behind it. -/
def cut (mark : Char) (s : List Char) : List Char × List Char :=
  (s.takeWhile (· != mark), (s.dropWhile (· != mark)).drop 1)

/-- The names of options with their values.  An option without a name is none. -/
def optionsOf (s : List Char) : List (String × String) :=
  (s.splitOn '&').filterMap fun option =>
    let name := decodedText (cut '=' option).1
    if name = "" then none else some (name, decodedText (cut '=' option).2)

structure Wishes where
  access : Access
  inMemory : Bool
  isShared : Bool
  /-- The file system. -/
  system : Option String

/-- Adds an option.  An option that means nothing is passed over. -/
def Wishes.add (w : Wishes) : String × String → Except DatabaseFault Wishes
  | ("mode", "ro") => pure { w with access := .look, inMemory := false }
  | ("mode", "rw") => pure { w with access := .change, inMemory := false }
  | ("mode", "rwc") => pure { w with access := .create, inMemory := false }
  | ("mode", "memory") => pure { w with inMemory := true }
  | ("mode", other) => throw (.unknownAccess other)
  | ("cache", "shared") => pure { w with isShared := true }
  | ("cache", "private") => pure { w with isShared := false }
  | ("cache", other) => throw (.unknownCache other)
  | ("vfs", name) => pure { w with system := some name }
  | _ => pure w

def systems : List String := ["unix", "unix-none", "unix-dotfile", "unix-excl", "memdb"]

/-! ### Addresses -/

/-- What an address with options begins with. -/
def scheme : List Char := "file:".toList

def memoryPath : String := ":memory:"

/-- What follows the name of the machine, which must be this one. -/
def afterAuthority : List Char → Except DatabaseFault (List Char)
  | '/' :: '/' :: s =>
      let name := String.ofList (s.takeWhile (· != '/'))
      if name = "" ∨ name = "localhost" then pure (s.dropWhile (· != '/'))
      else throw (.unknownAuthority name)
  | s => pure s

def ofWishes (path : String) (w : Wishes) : Address :=
  if path = "" then .memory false
  else if path = memoryPath ∨ w.inMemory then .memory w.isShared
  else .file path w.access

/-- The address written behind the scheme. -/
def ofScheme (s : List Char) : Except DatabaseFault Address := do
  let (path, options) := cut '?' (cut '#' (← afterAuthority s)).1
  let wishes ← (optionsOf options).foldlM Wishes.add ⟨.create, false, false, none⟩
  match wishes.system with
  | none => pure (ofWishes (decodedText path) wishes)
  | some system =>
      if systems.contains system then pure (ofWishes (decodedText path) wishes)
      else throw (.unknownSystem system)

def ofText (text : String) : Except DatabaseFault Address :=
  match scheme.isPrefixOf? text.toList with
  | some rest => ofScheme rest
  | none => if text = "" ∨ text = memoryPath then pure (.memory false) else pure (.file text .create)

end Address

end Agenda
