import PortalConfig.Plugin.Route
import PortalConfig.Visibility.Condition

/-!
# Mount points

A mount point places a component of a plugin under an id of the shell. Its configuration holds the
layout, the properties and the `if` block that decides when it shows; every other key is kept and
passed on.
-/

namespace PortalConfig

/-- The configuration of a mount point. -/
structure MountPointConfig where
  layout : Option (Members Doc)
  props : Option (Members Doc)
  condition : Option ConditionBlock
  /-- The keys that have no meaning here. -/
  extra : Members Doc

/-- A mount point as declared. -/
structure MountPoint where
  mountPoint : String
  module : Option String
  importName : Option String
  config : Option MountPointConfig

/-- A registered mount point. -/
structure MountPointEntry where
  scope : String
  module : String
  importName : String
  mountPoint : String
  config : Option MountPointConfig

namespace MountPointConfig

/-- The keys with a meaning of their own. -/
def ownKeys : List String := ["layout", "props", "if"]

/-- Decodes a configuration, which only an object is. -/
def decode (doc : Doc) : Option MountPointConfig := do
  let members ← doc.object?
  let layout ← Record.decodeOptional Doc.object? (members.get? "layout")
  let props ← Record.decodeOptional Doc.object? (members.get? "props")
  let condition ← Record.decodeOptional ConditionBlock.decode (members.get? "if")
  return { layout, props, condition, extra := members.filter fun m => !ownKeys.contains m.1 }

def encode (config : MountPointConfig) : Doc :=
  .object (optionalMember "layout" .object config.layout ++
    optionalMember "props" .object config.props ++
    optionalMember "if" ConditionBlock.encode config.condition ++ config.extra)

end MountPointConfig

namespace MountPoint

def decode : Doc → Option MountPoint := Doc.record do
  let mountPoint ← Record.required "mountPoint" Doc.string?
  let module ← Record.optional "module" Doc.string?
  let importName ← Record.optional "importName" Doc.string?
  let config ← Record.optional "config" MountPointConfig.decode
  return { mountPoint, module, importName, config }

def encode (entry : MountPoint) : Doc :=
  .object [("mountPoint", .string entry.mountPoint), ("module", .ofOption .string entry.module),
    ("importName", .ofOption .string entry.importName),
    ("config", .ofOption MountPointConfig.encode entry.config)]

/-- Fills in the defaults. -/
def resolve (scope : String) (entry : MountPoint) : MountPointEntry where
  scope
  module := entry.module.getD defaultModule
  importName := entry.importName.getD defaultImportName
  mountPoint := entry.mountPoint
  config := entry.config

end MountPoint

namespace MountPointEntry

def encode (entry : MountPointEntry) : Doc :=
  .object ([("scope", .string entry.scope), ("module", .string entry.module),
      ("importName", .string entry.importName), ("mountPoint", .string entry.mountPoint)] ++
    optionalMember "config" MountPointConfig.encode entry.config)

end MountPointEntry

end PortalConfig
