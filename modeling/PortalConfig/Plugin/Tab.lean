import PortalConfig.Plugin.Route

/-!
# Entity tabs

A tab adds a page under an entity, or overrides the title and mount point of one that is there.
The priority may also be given under the misspelt name `pariority`.
-/

namespace PortalConfig

/-- A tab as declared. -/
structure EntityTab where
  mountPoint : String
  path : String
  title : String
  priority : Option Int64
deriving DecidableEq

/-- A registered tab. -/
structure EntityTabEntry where
  scope : String
  mountPoint : String
  path : String
  title : String
  priority : Option Int64
deriving DecidableEq

namespace EntityTab

def decode : Doc → Option EntityTab := Doc.record do
  let mountPoint ← Record.required "mountPoint" Doc.string?
  let path ← Record.required "path" Doc.string?
  let title ← Record.required "title" Doc.string?
  let priority ← Record.optionalAlso "priority" "pariority" Doc.int64?
  return { mountPoint, path, title, priority }

def encode (tab : EntityTab) : Doc :=
  .object [("mountPoint", .string tab.mountPoint), ("path", .string tab.path),
    ("title", .string tab.title), ("priority", .ofOption .ofInt64 tab.priority)]

/-- Adds the scope. -/
def resolve (scope : String) (tab : EntityTab) : EntityTabEntry where
  scope
  mountPoint := tab.mountPoint
  path := tab.path
  title := tab.title
  priority := tab.priority

end EntityTab

namespace EntityTabEntry

def encode (tab : EntityTabEntry) : Doc :=
  .object ([("scope", .string tab.scope), ("mountPoint", .string tab.mountPoint),
      ("path", .string tab.path), ("title", .string tab.title)] ++
    optionalMember "priority" .ofInt64 tab.priority)

end EntityTabEntry

end PortalConfig
