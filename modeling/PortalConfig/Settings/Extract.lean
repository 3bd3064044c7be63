import PortalConfig.Settings.Basic
import PortalConfig.Settings.Value
import PortalConfig.Source.Files
import PortalConfig.Source.KeyOffset

/-!
# Taking settings out of values

The entries of a table are visited in the order of their keys, and the first problem ends the
visit. A table may also be given as a list of its settings by position. A problem knows the path of
keys to it; the path to an unknown key ends in that key.
-/

namespace PortalConfig

/-- Why settings cannot be taken out of a value. -/
inductive SettingProblem
  /-- A key at the end of the path that the table there does not have. -/
  | unknownKey (path : List String) (key : String) (valid : List String) (origin : SettingOrigin)
  /-- A value of the wrong type at the path. -/
  | invalidType (path : List String) (found : SettingValue) (expected : String)

/-- A reading of the value at a path. -/
abbrev SettingReader (α : Type) := List String → SettingValue → Except SettingProblem α

/-- A setting of a table: its key, and how its value changes what is set so far. -/
structure SettingField (σ : Type) where
  key : String
  read : List String → SettingValue → σ → Except SettingProblem σ

namespace SettingReader

def string (expected : String) : SettingReader String := fun path value =>
  match value with
  | .string text => .ok text
  | found => .error (.invalidType path found expected)

def boolean : SettingReader Bool := fun path value =>
  match value with
  | .boolean b => .ok b
  | found => .error (.invalidType path found "a boolean")

/-- The items of a list, of which the first stands at position `index`. -/
def items (item : SettingReader α) (path : List String) (index : Nat) :
    List SettingValue → Except SettingProblem (List α)
  | [] => .ok []
  | value :: rest => do
    let first ← item (path ++ [numeral index]) value
    let others ← items item path (index + 1) rest
    return first :: others

def list (item : SettingReader α) : SettingReader (List α) := fun path value =>
  match value with
  | .list values => items item path 0 values
  | found => .error (.invalidType path found "a sequence")

/-- The entries of a table in the order of their keys. -/
def sortEntries (entries : List (String × SettingOrigin × SettingValue)) :
    List (String × SettingOrigin × SettingValue) :=
  entries.mergeSort fun a b => decide (a.1 ≤ b.1)

/-- Reads one entry of a table. -/
def readEntry (fields : List (SettingField σ)) (path : List String) (settings : σ)
    (entry : String × SettingOrigin × SettingValue) : Except SettingProblem σ :=
  let (key, origin, value) := entry
  match fields.find? (·.key == key) with
  | some field => field.read (path ++ [key]) value settings
  | none => .error (.unknownKey (path ++ [key]) key (fields.map (·.key)) origin)

/-- Reads the settings of a table over what is set so far. -/
def table (name : String) (fields : List (SettingField σ)) (path : List String)
    (value : SettingValue) (settings : σ) : Except SettingProblem σ :=
  match value with
  | .table entries => (sortEntries entries).foldlM (readEntry fields path) settings
  | .list values => (fields.zip values).zipIdx.foldlM (fun settings ((field, value), index) =>
      field.read (path ++ [numeral index]) value settings) settings
  | found => .error (.invalidType path found ("struct " ++ name))

end SettingReader

namespace Settings

open SettingReader

/-- The setting in the section `logging`. -/
def loggingFields : List (SettingField Settings) :=
  [⟨"level", fun path value settings => do
    let level ← string "a string" path value
    return { settings with level }⟩]

/-- The setting in the section `sources`. -/
def sourceFields : List (SettingField Settings) :=
  [⟨"app_config", fun path value settings => do
    let appConfig ← list (string "path string") path value
    return { settings with appConfig }⟩]

/-- The setting in the section `output`. -/
def outputFields : List (SettingField Settings) :=
  [⟨"pretty", fun path value settings => do
    let pretty ← boolean path value
    return { settings with pretty }⟩]

/-- The sections. -/
def sectionFields : List (SettingField Settings) :=
  [⟨"logging", table "LoggingSettings" loggingFields⟩,
    ⟨"sources", table "SourceSettings" sourceFields⟩,
    ⟨"output", table "OutputSettings" outputFields⟩]

/-- The settings that a value gives; what it does not set keeps its default. -/
def extract (value : SettingValue) : Except SettingProblem Settings :=
  table "DevhubSettings" sectionFields [] value default

end Settings

/-- A settings file. -/
structure SettingsFile where
  name : String
  /-- What is in it, unless it cannot be read. -/
  text : Option String
  /-- Whether messages point into the file. -/
  shown : Bool

/-- The settings file at a path that was read; `none` when there is no file. -/
def SettingsFile.ofReading? (name : String) (shown : Bool) :
    Except ReadFailure String → Option SettingsFile
  | .ok text => some ⟨name, some text, shown⟩
  | .error failure =>
    if failure.isAbsence || failure == .isDirectory then none else some ⟨name, none, shown⟩

namespace SettingProblem

/-- The path as one text. -/
def pathText (path : List String) : String := String.intercalate "." path

/-- The file that a message about an entry of this origin points into: the one that it comes from,
or, when it comes from none, the only one there is. -/
def fileOf? (files : List SettingsFile) (origin : SettingOrigin) : Option SettingsFile :=
  let shown := files.filter (·.shown)
  match origin with
  | some name => shown.find? (·.name == name)
  | none =>
    match shown with
    | [file] => some file
    | _ => none

/-- Where an unknown key is written. -/
def spanOf? (files : List SettingsFile) (path : List String) (key : String)
    (origin : SettingOrigin) : Option SourceSpan :=
  (fileOf? files origin).bind fun file =>
    (file.text.bind (Source.keyOffset? · path key)).map fun offset =>
      ⟨file.name, offset, Source.byteSize key.toList⟩

/-- The section that a message names for the path of an unknown key. -/
def sectionText (path : List String) : String :=
  if pathText path = "" then "<root>" else pathText path

/-- The diagnostic that reports the problem. -/
def diagnostic (files : List SettingsFile) : SettingProblem → Diagnostic
  | unknownKey path key valid origin =>
    .unknownKey key (sectionText path) valid (spanOf? files path key origin)
  | invalidType path found expected =>
    .invalidType (pathText path)
      ("found " ++ found.description ++ ", expected " ++ expected) expected

end SettingProblem

end PortalConfig
