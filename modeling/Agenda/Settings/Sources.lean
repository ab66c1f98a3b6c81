import Agenda.Settings.Environment
import Agenda.Settings.Toml

/-!
# The sources of settings

The settings file overrides the standard settings, and the environment overrides the file.

* `Settings.load` — the settings made of a file and the environment.
-/

namespace Agenda.Settings

/-- The values in a settings file, which need not exist. -/
def fileValues : Option String → Except SettingsError SettingValues
  | none => pure []
  | some content =>
      match Toml.values? content with
      | some values => pure values
      | none => throw .unreadableFile

def load (file : Option String) (environment : List (String × String)) : Except SettingsError Settings := do
  let values ← fileValues file
  ofValues (values ++ Environment.values environment)

end Agenda.Settings
