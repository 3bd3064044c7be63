import PortalConfig.Plugin.Import

/-!
# App icons

An icon is an export of a plugin under a name by which menu items refer to it.
-/

namespace PortalConfig

/-- An icon as declared. -/
structure AppIcon where
  name : String
  module : Option String
  importName : Option String
deriving DecidableEq

/-- A registered icon. -/
structure AppIconEntry where
  scope : String
  module : String
  importName : String
  name : String
deriving DecidableEq

namespace AppIcon

def decode : Doc → Option AppIcon := Doc.record do
  let name ← Record.required "name" Doc.string?
  let module ← Record.optional "module" Doc.string?
  let importName ← Record.optional "importName" Doc.string?
  return { name, module, importName }

def encode (icon : AppIcon) : Doc :=
  .object [("name", .string icon.name), ("module", .ofOption .string icon.module),
    ("importName", .ofOption .string icon.importName)]

/-- Fills in the defaults. -/
def resolve (scope : String) (icon : AppIcon) : AppIconEntry where
  scope
  module := icon.module.getD defaultModule
  importName := icon.importName.getD defaultImportName
  name := icon.name

end AppIcon

namespace AppIconEntry

def encode (icon : AppIconEntry) : Doc :=
  .object [("scope", .string icon.scope), ("module", .string icon.module),
    ("importName", .string icon.importName), ("name", .string icon.name)]

end AppIconEntry

end PortalConfig
