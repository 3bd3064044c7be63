import PortalConfig.Plugin.Registry
import PortalConfig.Visibility.Predicate

/-!
# What the shell renders

The shell looks mount points up by id and entity tabs by path. `Shell.ofRegistry` groups the mount
points under their ids, in order, with their `if` blocks compiled, and keeps the last tab of every
path at the place of the first.
-/

namespace PortalConfig

/-- A mount point ready to render. -/
structure RenderedMountPoint where
  scope : String
  module : String
  importName : String
  layout : Members Doc
  props : Members Doc
  extra : Members Doc
  predicate : Predicate

/-- What a tab overrides. -/
structure TabOverride where
  title : String
  mountPoint : String
  priority : Option Int64
deriving DecidableEq

/-- The registry as the shell uses it. -/
structure Shell where
  groups : Keyed (List RenderedMountPoint)
  tabs : Keyed TabOverride
  menuItems : List MenuItem
  scaffolderFieldExtensions : List ImportEntry
  techdocsAddons : List TechdocsAddonEntry
  providerSettings : List ProviderSetting

namespace RenderedMountPoint

/-- Compiles a registered mount point. -/
def ofEntry (entry : MountPointEntry) : RenderedMountPoint where
  scope := entry.scope
  module := entry.module
  importName := entry.importName
  layout := (entry.config.bind (·.layout)).getD []
  props := (entry.config.bind (·.props)).getD []
  extra := (entry.config.map (·.extra)).getD []
  predicate := .compile (entry.config.bind (·.condition))

/-- Whether the mount point shows for an entity. -/
def isVisible (mountPoint : RenderedMountPoint) (entity : Entity)
    (capabilities : Option Capabilities) : Bool :=
  mountPoint.predicate.evaluate entity capabilities

end RenderedMountPoint

namespace Shell

/-- Adds a mount point to the group of its id. -/
def addMountPoint (groups : Keyed (List RenderedMountPoint)) (entry : MountPointEntry) :
    Keyed (List RenderedMountPoint) :=
  groups.upsert entry.mountPoint fun present => present.getD [] ++ [.ofEntry entry]

/-- Sets the override of a tab's path. -/
def addTab (tabs : Keyed TabOverride) (tab : EntityTabEntry) : Keyed TabOverride :=
  tabs.insert tab.path ⟨tab.title, tab.mountPoint, tab.priority⟩

def ofRegistry (registry : Registry) : Shell where
  groups := registry.mountPoints.foldl addMountPoint .empty
  tabs := registry.entityTabs.foldl addTab .empty
  menuItems := registry.menuItems
  scaffolderFieldExtensions := registry.scaffolderFieldExtensions
  techdocsAddons := registry.techdocsAddons
  providerSettings := registry.providerSettings

/-- The mount points under an id, in order. -/
def mountPoints (shell : Shell) (id : String) : List RenderedMountPoint :=
  (shell.groups.get? id).getD []

/-- The ids of mount points, in order of first registration. -/
def mountPointIds (shell : Shell) : List String := shell.groups.keys

/-- The mount points under an id that show for an entity. -/
def visibleMountPoints (shell : Shell) (id : String) (entity : Entity)
    (capabilities : Option Capabilities) : List RenderedMountPoint :=
  (shell.mountPoints id).filter (·.isVisible entity capabilities)

/-- The override of a tab path. -/
def tabOverride? (shell : Shell) (path : String) : Option TabOverride := shell.tabs.get? path

end Shell

end PortalConfig
