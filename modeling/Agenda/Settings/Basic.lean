/-!
# Settings

The program has three settings.  Each source of settings gives values of any type to keys of any name; a
later source overrides an earlier one, key by key, and then each setting must have a value of its type.

* `Settings.standard` — the settings where no source says anything.
* `Settings.ofValues` — the settings made of the values of all sources.
-/

namespace Agenda

inductive SettingValue
  | text (s : String)
  | integer (n : Int)
  | boolean (b : Bool)
  /-- A number with a fraction or an exponent. -/
  | decimal
  /-- A group of keys. -/
  | group
deriving DecidableEq, Repr

/-- Keys with their values; of two values for a key the later one counts. -/
abbrev SettingValues := List (String × SettingValue)

structure Settings where
  /-- Where the tasks are kept. -/
  databasePath : String
  /-- How many tasks are listed. -/
  listLimit : Nat
  /-- How much is logged. -/
  logLevel : String
deriving DecidableEq, Repr

/-- Why there are no settings. -/
inductive SettingsError
  /-- The file of settings cannot be read. -/
  | unreadableFile
  /-- The value of a key is of another type. -/
  | wrongType (key : String)
  /-- The value of a key is too small or too large. -/
  | outOfRange (key : String)
deriving DecidableEq, Repr

def SettingValues.value? (values : SettingValues) (key : String) : Option SettingValue :=
  (values.reverse.find? (fun entry => entry.1 == key)).map Prod.snd

namespace Settings

/-- The settings where no source says anything. -/
def standard : Settings := ⟨"scheduler.db", 50, "warn"⟩

def greatestLimit : Nat := 4294967295

def readText (values : SettingValues) (key default : String) : Except SettingsError String :=
  match values.value? key with
  | none => pure default
  | some (.text s) => pure s
  | some _ => throw (.wrongType key)

def readLimit (values : SettingValues) (key : String) (default : Nat) : Except SettingsError Nat :=
  match values.value? key with
  | none => pure default
  | some (.integer n) => if 0 ≤ n ∧ n ≤ greatestLimit then pure n.toNat else throw (.outOfRange key)
  | some _ => throw (.wrongType key)

/-- The settings made of values.  The first setting without a fit value is the error. -/
def ofValues (values : SettingValues) : Except SettingsError Settings := do
  let databasePath ← readText values "database_path" standard.databasePath
  let listLimit ← readLimit values "list_limit" standard.listLimit
  let logLevel ← readText values "log_level" standard.logLevel
  pure ⟨databasePath, listLimit, logLevel⟩

end Settings

end Agenda
