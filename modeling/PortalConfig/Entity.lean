import PortalConfig.Doc.Path

/-!
# Catalog entities

An entity is a document of any shape. The accessors read the few fields that conditions and
built-in columns look at, and give nothing where the document is shaped otherwise.
-/

namespace PortalConfig

/-- A catalog entity. -/
structure Entity where
  doc : Doc

/-- The namespace of an entity that names none. -/
def defaultNamespace : String := "default"

namespace Entity

/-- `kind`, when it is a string. -/
def kind? (entity : Entity) : Option String := (entity.doc.get? "kind").bind Doc.string?

/-- `spec.type`, when it is a string. -/
def specType? (entity : Entity) : Option String :=
  (entity.doc.get? "spec").bind fun spec => (spec.get? "type").bind Doc.string?

/-- A string among the metadata. -/
def metadataString? (entity : Entity) (key : String) : Option String :=
  (entity.doc.get? "metadata").bind fun metadata => (metadata.get? key).bind Doc.string?

def name? (entity : Entity) : Option String := entity.metadataString? "name"

/-- The title, or else the name. -/
def displayName? (entity : Entity) : Option String :=
  (entity.metadataString? "title").or entity.name?

/-- The namespace, `default` when there is none. -/
def namespaceName (entity : Entity) : String :=
  (entity.metadataString? "namespace").getD defaultNamespace

def description? (entity : Entity) : Option String := entity.metadataString? "description"

/-- The tags that are strings. -/
def tags (entity : Entity) : List String :=
  match (entity.doc.get? "metadata").bind (·.get? "tags") with
  | some (.array items) => items.filterMap Doc.string?
  | _ => []

/-- The annotations, when they are an object. -/
def annotations? (entity : Entity) : Option (Members Doc) :=
  (entity.doc.get? "metadata").bind fun metadata =>
    (metadata.get? "annotations").bind Doc.object?

/-- The value of an annotation, when it is a string. -/
def annotation? (entity : Entity) (key : String) : Option String :=
  entity.annotations?.bind fun annotations => (annotations.get? key).bind Doc.string?

/-- Whether an annotation is there, whatever its value. -/
def isAnnotated (entity : Entity) (key : String) : Bool :=
  match entity.annotations? with
  | some annotations => (annotations.get? key).isSome
  | none => false

/-- The value at a field path. -/
def lookup? (entity : Entity) (path : String) : Option Doc := entity.doc.lookup? path

/-- The text shown for the value at a field path. -/
def lookupText? (entity : Entity) (path : String) : Option String := entity.doc.lookupText? path

end Entity

end PortalConfig
