import PortalConfig.Settings.Environment
import PortalConfig.Settings.Extract
import PortalConfig.Toml.Reader

/-!
# Layers of settings

Settings files are laid over each other in order of precedence, and the environment over all of
them. Every file that is no TOML document is reported; only when there is none are the values
looked at.
-/

namespace PortalConfig.Settings

/-- The values that a file gives, unless it is no document. -/
def fileValue? (file : SettingsFile) : Option SettingValue :=
  (file.text.bind Toml.read?).map fun entries => .ofToml (some file.name) (.table entries)

/-- Everything that is set, by files of rising precedence and then by the environment. -/
def layered (files : List SettingValue) (environment : List (String × String)) : SettingValue :=
  (files ++ [Environment.table environment]).foldl SettingValue.merge (.table [])

/-- Loads settings, or reports what is wrong with them. -/
def load (files : List SettingsFile) (environment : List (String × String)) :
    Except (List Diagnostic) Settings :=
  match files.filter (fun file => (fileValue? file).isNone) with
  | [] =>
    match extract (layered (files.filterMap fileValue?) environment) with
    | .error problem => .error [problem.diagnostic files]
    | .ok settings => if settings.problems.isEmpty then .ok settings else .error settings.problems
  | malformed => .error (malformed.map fun _ => .other)

/-- The name of settings that come from no file. -/
def inlineName : String := "<inline>"

/-- Loads settings from a text alone. -/
def ofText (text : String) : Except (List Diagnostic) Settings :=
  load [⟨inlineName, some text, true⟩] []

end PortalConfig.Settings
