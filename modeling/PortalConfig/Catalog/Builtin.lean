import PortalConfig.Catalog.CreatedAt
import PortalConfig.Catalog.View
import PortalConfig.Text.Lowercase

/-!
# Built-in columns

The columns that the platform knows by id, and the set that a view shows by default, which depends
on the kind it is restricted to.
-/

namespace PortalConfig.Column

/-- The name, ordered without regard to letter case. -/
def name : Column :=
  { basic (some "name") "Name" "resolved.name" (·.name) with
    order := some fun a b => compare (Text.lower a.name) (Text.lower b.name) }

def owner : Column :=
  basic (some "owner") "Owner" "resolved.ownedByRelationsTitle" (·.owner.getD "")

def system : Column :=
  basic (some "system") "System" "resolved.partOfSystemRelationTitle" (·.system.getD "")

def specType : Column :=
  basic (some "type") "Type" "entity.spec.type" (·.entity.specType?.getD "")

def lifecycle : Column :=
  basic (some "lifecycle") "Lifecycle" "entity.spec.lifecycle"
    fun row => (row.entity.lookupText? "spec.lifecycle").getD ""

def description : Column :=
  basic (some "description") "Description" "entity.metadata.description"
    (·.entity.description?.getD "")

/-- The tags, by which the table cannot be sorted. -/
def tags : Column :=
  { basic (some "tags") "Tags" "entity.metadata.tags"
      fun row => String.intercalate ", " row.entity.tags with
    sorting := some false }

def namespaceName : Column :=
  basic (some "namespace") "Namespace" "entity.metadata.namespace" (·.entity.namespaceName)

/-- The targets of a location: those of its list, then the single one. -/
def locationTargets (entity : Entity) : List String :=
  let listed := match entity.lookup? "spec.targets" with
    | some (.array items) => items.filterMap Doc.string?
    | _ => []
  listed ++ ((entity.lookup? "spec.target").bind Doc.string?).toList

/-- The targets of a location. The column has no id. -/
def targets : Column :=
  basic none "Targets" "entity.spec.targets"
    fun row => String.intercalate ", " (locationTargets row.entity)

/-- The column with an id, the creation date aside. -/
def builtin? (id : String) : Option Column :=
  if id = "name" then some name
  else if id = "owner" then some owner
  else if id = "type" then some specType
  else if id = "lifecycle" then some lifecycle
  else if id = "description" then some description
  else if id = "tags" then some tags
  else if id = "namespace" then some namespaceName
  else if id = "system" then some system
  else none

/-- The columns between the name and the description. The type is hidden in a view that is
restricted to one. -/
def ofKind (view : CatalogView) : List Column :=
  let type := { specType with hidden := view.specType.isSome }
  let kind := view.kindLower
  if kind = some "user" then []
  else if kind = some "domain" ∨ kind = some "system" then [owner]
  else if kind = some "group" ∨ kind = some "template" then [type]
  else if kind = some "location" then [type, targets]
  else if view.spansNamespaces then [system, namespaceName, owner, type, lifecycle]
  else [system, owner, type, lifecycle]

/-- The columns that a view shows by default. -/
def defaults (view : CatalogView) : List Column :=
  name :: ofKind view ++ [description, tags]

end PortalConfig.Column
