import PortalConfig.Entity
import PortalConfig.Text.AsciiCase

/-!
# Catalog views

The view of the catalog that a table is built for: the kind and the type that it is restricted to,
and whether its entities live in more than one namespace.
-/

namespace PortalConfig

/-- What a table is built for. -/
structure CatalogView where
  kind : Option String
  specType : Option String
  spansNamespaces : Bool
deriving DecidableEq

namespace CatalogView

/-- The view that lists these entities. -/
def ofEntities (kind : Option String) (entities : List Entity) : CatalogView where
  kind
  specType := none
  spansNamespaces :=
    match entities with
    | [] => false
    | first :: rest => rest.any fun entity => entity.namespaceName != first.namespaceName

/-- The kind in small ASCII letters. -/
def kindLower (view : CatalogView) : Option String := view.kind.map Text.asciiLower

end CatalogView

end PortalConfig
