import PortalConfig.Plugin.Route

/-!
# Documentation addons

An addon is a component that the documentation reader mounts. A configuration that does not decode
is left out.
-/

namespace PortalConfig

/-- An addon as declared. -/
structure TechdocsAddon where
  module : Option String
  importName : Option String
  config : Option ComponentConfig

/-- A registered addon. -/
structure TechdocsAddonEntry where
  scope : String
  module : String
  importName : String
  config : Option ComponentConfig

namespace TechdocsAddon

def decode : Doc → Option TechdocsAddon := Doc.record do
  let module ← Record.optional "module" Doc.string?
  let importName ← Record.optional "importName" Doc.string?
  let config ← Record.lenient "config" ComponentConfig.decode
  return { module, importName, config }

def encode (addon : TechdocsAddon) : Doc :=
  .object [("module", .ofOption .string addon.module),
    ("importName", .ofOption .string addon.importName),
    ("config", .ofOption ComponentConfig.encode addon.config)]

/-- Fills in the defaults. -/
def resolve (scope : String) (addon : TechdocsAddon) : TechdocsAddonEntry where
  scope
  module := addon.module.getD defaultModule
  importName := addon.importName.getD defaultImportName
  config := addon.config

end TechdocsAddon

namespace TechdocsAddonEntry

def encode (addon : TechdocsAddonEntry) : Doc :=
  .object ([("scope", .string addon.scope), ("module", .string addon.module),
      ("importName", .string addon.importName)] ++
    optionalMember "config" ComponentConfig.encode addon.config)

end TechdocsAddonEntry

end PortalConfig
