import PortalConfig.Entity
import PortalConfig.Text.AsciiCase

/-!
# Rows of the catalog table

A row shows an entity, with a few texts derived from it once. References to other entities have
the form `[kind:][namespace/]name` and are shown without the parts that go without saying.
-/

namespace PortalConfig

/-- A reference `[kind:][namespace/]name`, taken apart. -/
structure EntityRef where
  kind : Option String
  namespaceName : Option String
  name : String
deriving DecidableEq

/-- A row of the table. -/
structure Row where
  entity : Entity
  /-- The title, or else the name. -/
  name : String
  /-- The full reference to the entity. -/
  entityRef : String
  owner : Option String
  system : Option String

/-- The parts before and after the first occurrence of a character. -/
def splitAtFirst (separator : Char) (text : List Char) : Option (List Char × List Char) :=
  match text with
  | [] => none
  | c :: rest =>
    if c = separator then some ([], rest)
    else (splitAtFirst separator rest).map fun (before, after) => (c :: before, after)

namespace EntityRef

/-- Takes a reference apart at its first colon and, after it, at its first slash. -/
def parse (reference : String) : EntityRef :=
  let (kind, rest) := match splitAtFirst ':' reference.toList with
    | some (kind, rest) => (some (String.ofList kind), rest)
    | none => (none, reference.toList)
  let (namespaceName, name) := match splitAtFirst '/' rest with
    | some (namespaceName, name) => (some (String.ofList namespaceName), name)
    | none => (none, rest)
  { kind, namespaceName, name := String.ofList name }

/-- Leaves out the kind when it is the expected one and the namespace when it is the default
one. -/
def shorten (ref : EntityRef) (defaultKind : String) : EntityRef where
  kind := (ref.kind.filter fun kind => !Text.equalIgnoringCase kind defaultKind).map
    Text.asciiLower
  namespaceName := ref.namespaceName.filter (· != defaultNamespace)
  name := ref.name

/-- The written form. -/
def text (ref : EntityRef) : String :=
  (match ref.kind with
    | some kind => kind ++ ":"
    | none => "") ++
  (match ref.namespaceName with
    | some namespaceName => namespaceName ++ "/"
    | none => "") ++ ref.name

/-- A reference as a table shows it. -/
def humanize (reference defaultKind : String) : String :=
  ((parse reference).shorten defaultKind).text

end EntityRef

namespace Row

/-- The reference at a field path, as a table shows it. -/
def shownRef? (entity : Entity) (path defaultKind : String) : Option String :=
  ((entity.lookup? path).bind Doc.string?).map (EntityRef.humanize · defaultKind)

def ofEntity (entity : Entity) : Row where
  entity
  name := entity.displayName?.getD ""
  entityRef := Text.asciiLower (entity.kind?.getD "") ++ ":" ++ entity.namespaceName ++ "/" ++
    entity.name?.getD ""
  owner := shownRef? entity "spec.owner" "group"
  system := shownRef? entity "spec.system" "system"

end Row

end PortalConfig
