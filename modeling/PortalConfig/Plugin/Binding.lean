import PortalConfig.Plugin.Import

/-!
# Route bindings

A plugin declares binding targets, which other plugins' routes may be bound to, and bindings,
which say which external route of a target leads to which route. Bindings are passed on as they
are; a target without a name is named after its export.
-/

namespace PortalConfig

/-- A binding target as declared. -/
structure BindingTarget where
  module : Option String
  importName : Option String
  name : Option String
deriving DecidableEq

/-- A registered binding target. -/
structure BindingTargetEntry where
  scope : String
  module : String
  importName : String
  name : String
deriving DecidableEq

/-- A binding: the target, and a route for each of its external routes. -/
structure RouteBinding where
  bindTarget : String
  bindMap : Members String
deriving DecidableEq

/-- The targets and bindings of a plugin. -/
structure RouteBindings where
  targets : List BindingTarget
  bindings : List RouteBinding
deriving DecidableEq

namespace BindingTarget

def decode : Doc → Option BindingTarget := Doc.record do
  let module ← Record.optional "module" Doc.string?
  let importName ← Record.optional "importName" Doc.string?
  let name ← Record.optional "name" Doc.string?
  return { module, importName, name }

def encode (target : BindingTarget) : Doc :=
  .object [("module", .ofOption .string target.module),
    ("importName", .ofOption .string target.importName),
    ("name", .ofOption .string target.name)]

/-- Fills in the defaults, the name last. -/
def resolve (scope : String) (target : BindingTarget) : BindingTargetEntry where
  scope
  module := target.module.getD defaultModule
  importName := target.importName.getD defaultImportName
  name := target.name.getD (target.importName.getD defaultImportName)

end BindingTarget

namespace BindingTargetEntry

def encode (target : BindingTargetEntry) : Doc :=
  .object [("scope", .string target.scope), ("module", .string target.module),
    ("importName", .string target.importName), ("name", .string target.name)]

end BindingTargetEntry

namespace RouteBinding

def decode : Doc → Option RouteBinding := Doc.record do
  let bindTarget ← Record.required "bindTarget" Doc.string?
  let bindMap ← Record.withDefault "bindMap" [] (Doc.mapOf Doc.string?)
  return { bindTarget, bindMap }

def encode (binding : RouteBinding) : Doc :=
  .object [("bindTarget", .string binding.bindTarget),
    ("bindMap", .object (binding.bindMap.map fun (key, value) => (key, .string value)))]

end RouteBinding

end PortalConfig
