import PortalConfig.Plugin.Import

/-!
# Themes

A theme is an export of a plugin with an id, a title and a variant, light or dark.
-/

namespace PortalConfig

/-- Whether a theme is light or dark. -/
inductive ThemeVariant
  | light
  | dark
deriving DecidableEq

/-- A theme as declared. -/
structure Theme where
  id : String
  title : String
  variant : ThemeVariant
  icon : String
  module : Option String
  importName : Option String
deriving DecidableEq

/-- A registered theme. -/
structure ThemeEntry where
  scope : String
  module : String
  importName : String
  id : String
  title : String
  variant : ThemeVariant
  icon : String
deriving DecidableEq

namespace ThemeVariant

def name : ThemeVariant → String
  | .light => "light"
  | .dark => "dark"

/-- The variant with this name. -/
def ofName? (name : String) : Option ThemeVariant :=
  if name = "light" then some .light
  else if name = "dark" then some .dark
  else none

/-- Decodes a variant, written as its name or as an object that gives the name a `null`. -/
def decode : Doc → Option ThemeVariant
  | .string name => ofName? name
  | .object [(name, .null)] => ofName? name
  | _ => none

def encode (variant : ThemeVariant) : Doc := .string variant.name

end ThemeVariant

namespace Theme

def decode : Doc → Option Theme := Doc.record do
  let id ← Record.required "id" Doc.string?
  let title ← Record.required "title" Doc.string?
  let variant ← Record.required "variant" ThemeVariant.decode
  let icon ← Record.withDefault "icon" "" Doc.string?
  let module ← Record.optional "module" Doc.string?
  let importName ← Record.optional "importName" Doc.string?
  return { id, title, variant, icon, module, importName }

def encode (theme : Theme) : Doc :=
  .object [("id", .string theme.id), ("title", .string theme.title),
    ("variant", theme.variant.encode), ("icon", .string theme.icon),
    ("module", .ofOption .string theme.module),
    ("importName", .ofOption .string theme.importName)]

/-- Fills in the defaults. -/
def resolve (scope : String) (theme : Theme) : ThemeEntry where
  scope
  module := theme.module.getD defaultModule
  importName := theme.importName.getD defaultImportName
  id := theme.id
  title := theme.title
  variant := theme.variant
  icon := theme.icon

end Theme

namespace ThemeEntry

def encode (theme : ThemeEntry) : Doc :=
  .object [("scope", .string theme.scope), ("module", .string theme.module),
    ("importName", .string theme.importName), ("id", .string theme.id),
    ("title", .string theme.title), ("variant", theme.variant.encode),
    ("icon", .string theme.icon)]

end ThemeEntry

end PortalConfig
