import PortalConfig.AppConfig
import PortalConfig.Catalog.Composer
import PortalConfig.Lint.Columns
import PortalConfig.Lint.Frontend
import PortalConfig.Plugin.Shell

/-!
# Reports

What can be asked of a configuration: the resolved registry, the columns of a view, the mount
points that show for an entity, and the findings about it. The first three answer with a document.
-/

namespace PortalConfig

namespace RenderedMountPoint

/-- A member that is left out when the object is empty. -/
def nonEmptyMember (key : String) (members : Members Doc) : Members Doc :=
  if members.isEmpty then [] else [(key, .object members)]

/-- What a report says of a mount point. -/
def encode (mountPoint : RenderedMountPoint) : Doc :=
  .object ([("scope", .string mountPoint.scope), ("module", .string mountPoint.module),
      ("importName", .string mountPoint.importName)] ++
    nonEmptyMember "layout" mountPoint.layout ++ nonEmptyMember "props" mountPoint.props)

end RenderedMountPoint

namespace AppConfig

/-- The registry of all plugins. -/
def registryReport (config : AppConfig) : Doc := config.plugins.resolve.encode

/-- The columns of a view. -/
def columnsReport (config : AppConfig) (view : CatalogView) : Doc :=
  .array ((Column.compose config.columns? view).map Column.encode)

/-- The mount points under an id that show for an entity. -/
def visibleReport (config : AppConfig) (id : String) (entity : Entity) : Doc :=
  let shell := Shell.ofRegistry config.plugins.resolve
  .array ((shell.visibleMountPoints id entity none).map RenderedMountPoint.encode)

/-- The problems in the plugins and the columns. -/
def diagnostics (config : AppConfig) : List Diagnostic :=
  ((config.frontendDoc?.map Lint.frontend).getD []).map FrontendFinding.diagnostic ++
    ((config.columns?.map Lint.columns).getD []).map ColumnFinding.diagnostic

end AppConfig

end PortalConfig
