import AccessPolicy.Codec
import AccessPolicy.FileTree

/-!
# Loading settings

Settings are read from a TOML text, which may leave out every one of them, and
checked before they are used.  A text that is no TOML or does not fit the
settings is told apart from one whose values are out of range.
-/

namespace AccessPolicy

inductive SettingsError where
  /-- The file could not be read. -/
  | unreadable (path : String) (failure : ReadFailure)
  /-- The text is no TOML, or does not fit the settings. -/
  | malformed
  /-- A value is out of range. -/
  | invalid (fault : SettingsFault)
  deriving DecidableEq

/-- The text of a failure to load settings, where it depends on nothing
but the failure. -/
def SettingsError.message? : SettingsError → Option String
  | unreadable path failure =>
    some s!"Failed to read config file {path}: {failure.message}"
  | malformed => none
  | invalid fault => some ("Invalid config: " ++ fault.message)

namespace Settings

def checked (settings : Settings) : Except SettingsError Settings :=
  match settings.validate with
  | .ok () => .ok settings
  | .error fault => .error (.invalid fault)

def parse (text : String) : Except SettingsError Settings :=
  match decode? (α := Settings) .toml text with
  | none => .error .malformed
  | some settings => settings.checked

def load (files : FileSystem) (path : String) : Except SettingsError Settings :=
  match files.read path with
  | .error failure => .error (.unreadable path failure)
  | .ok bytes =>
    match String.fromUTF8? bytes with
    | none => .error (.unreadable path .invalidUtf8)
    | some text => parse text

end Settings

end AccessPolicy
