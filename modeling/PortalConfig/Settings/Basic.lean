import PortalConfig.Diagnostic
import PortalConfig.Doc.Record
import PortalConfig.Text.Blank

/-!
# Settings of the tool

How much is logged, which files the configuration is read from when none are named, and whether
output is laid out over lines. Settings have defaults throughout; a key that is no setting is
refused. Settings that make no sense are reported all at once.
-/

namespace PortalConfig

/-- The settings of the tool. -/
structure Settings where
  /-- What is logged, `logging.level`. -/
  level : String
  /-- The files of the configuration, `sources.app_config`. -/
  appConfig : List String
  /-- Whether output is laid out over lines, `output.pretty`. -/
  pretty : Bool
deriving DecidableEq

namespace Settings

/-- The settings where nothing is set. -/
def default : Settings := ⟨"warn", ["app-config.yaml"], true⟩

/-- The names of the sections, in the order of a list that gives them by position. -/
def sections : List String := ["logging", "sources", "output"]

/-- Decodes a section with a single setting, which has a default. -/
def decodeSection (name : String) (default : α) (decode : Doc → Option α) : Doc → Option α :=
  Doc.closedRecord [name] (Record.withDefault name default decode)

/-- Decodes settings. -/
def decode : Doc → Option Settings := Doc.closedRecord sections do
  let level ← Record.withDefault "logging" default.level
    (decodeSection "level" default.level Doc.string?)
  let appConfig ← Record.withDefault "sources" default.appConfig
    (decodeSection "app_config" default.appConfig (Doc.listOf Doc.string?))
  let pretty ← Record.withDefault "output" default.pretty
    (decodeSection "pretty" default.pretty Doc.bool?)
  return { level, appConfig, pretty }

def encode (settings : Settings) : Doc :=
  .object [("logging", .object [("level", .string settings.level)]),
    ("sources", .object [("app_config", .strings settings.appConfig)]),
    ("output", .object [("pretty", .bool settings.pretty)])]

/-- The positions of empty paths among the files of the configuration. -/
def emptyPaths (settings : Settings) : List Nat :=
  settings.appConfig.zipIdx.filterMap fun (path, index) =>
    if path = "" then some index else none

/-- What makes no sense about the settings. -/
def problems (settings : Settings) : List Diagnostic :=
  (if Text.isBlank settings.level.toList then
      [.validation "logging.level must not be empty"]
    else []) ++
  settings.emptyPaths.map fun index =>
    .validation ("sources.app_config[" ++ numeral index ++ "] must not be empty")

end Settings

end PortalConfig
