import StoryDirector.Record.Settings
import StoryDirector.Settings.Environment
import StoryDirector.Settings.Validation
import StoryDirector.Toml.Reader
/-!
# StoryDirector.Settings.Loading

Settings from a file and the environment. **The file replaces defaults, the environment replaces
what the file says, and the result has to be acceptable.** A file that does not exist says nothing;
one that cannot be read or understood is an error.
-/

namespace StoryDirector

/-- What is found at a path. -/
inductive SettingsFile where
  /-- Nothing. -/
  | missing
  /-- A directory. -/
  | directory
  /-- A file with some bytes. -/
  | bytes (content : ByteArray)

/-- Why a file could not be read. -/
inductive FileError where
  /-- It is a directory. -/
  | directory
  /-- It is no text. -/
  | notText

/-- The wording of a failure to read a file. -/
def FileError.message : FileError → String
  | .directory => "Is a directory (os error 21)"
  | .notText => "stream did not contain valid UTF-8"

/-- Why settings could not be loaded. -/
inductive SettingsError where
  /-- The file could not be read. -/
  | unreadable (reason : FileError)
  /-- The file could not be understood. -/
  | malformed
  /-- The settings are not acceptable. -/
  | invalid (fault : SettingsFault)

/-- The wording of a failure to load settings. -/
def SettingsError.message : SettingsError → String
  | .unreadable reason => "failed to read config file: " ++ reason.message
  | .malformed => "failed to parse config TOML"
  | .invalid fault => "invalid config value: " ++ fault.message

namespace Settings

/-- The settings that a document writes. -/
def ofToml? (document : String) : Option Settings :=
  (Toml.parse? document).bind (Settings.ofRecord? .toml)

/-- The settings that a file holds. -/
def ofFile : SettingsFile → Except SettingsError Settings
  | .missing => .ok {}
  | .directory => .error (.unreadable .directory)
  | .bytes content =>
    match String.fromUTF8? content with
    | none => .error (.unreadable .notText)
    | some document =>
      match ofToml? document with
      | some settings => .ok settings
      | none => .error .malformed

/-- The settings, if they are acceptable. -/
def checked (settings : Settings) : Except SettingsError Settings :=
  match settings.fault? with
  | some fault => .error (.invalid fault)
  | none => .ok settings

/-- The settings from a file and the environment. -/
def loadFrom (file : SettingsFile) (env : Environment) : Except SettingsError Settings := do
  let settings ← ofFile file
  (settings.overriddenBy env).checked

/-- The variable that names the file. -/
def pathVariable : String := "CORTEX_CONFIG"

/-- The settings from the file that the environment names, if it names one, and the environment. -/
def load (fileAt : String → SettingsFile) (env : Environment) : Except SettingsError Settings :=
  match env.textOf? pathVariable with
  | some path => loadFrom (fileAt path) env
  | none => loadFrom .missing env

theorem checked_eq_ok_iff {settings accepted : Settings} :
    settings.checked = .ok accepted ↔ settings.isValid = true ∧ settings = accepted := by
  unfold checked isValid
  cases h : settings.fault? <;> simp

end Settings

end StoryDirector
