import PortalConfig.Plugin.Route
import PortalConfig.Text.AsciiCase

/-!
# Column configuration

The columns of the catalog table are configured by ids to include or exclude and by columns of the
user's own. Reading a configuration is lenient: ids that are no strings and columns that do not
decode are dropped one by one.
-/

namespace PortalConfig

/-- A kind, or several. -/
inductive KindFilter
  | one (kind : String)
  | many (kinds : List String)
deriving DecidableEq

/-- A column of the user's own, which shows the field at a path. -/
structure CustomColumn where
  title : String
  field : String
  kind : Option KindFilter
  defaultValue : Option String
  width : Option UInt32
  sortable : Option Bool
deriving DecidableEq

/-- The configuration of the columns. -/
structure ColumnConfig where
  included : Option (List String)
  excluded : Option (List String)
  custom : Option (List CustomColumn)
deriving DecidableEq

/-- The ids that can be included and excluded. -/
def columnIds : List String :=
  ["name", "owner", "type", "lifecycle", "description", "tags", "namespace", "system",
    "createdAt"]

/-- The kinds of entities that a catalog knows. -/
def knownKinds : List String :=
  ["api", "component", "domain", "group", "location", "resource", "system", "template", "user"]

namespace KindFilter

def kinds : KindFilter → List String
  | .one kind => [kind]
  | .many kinds => kinds

/-- Whether a kind is among those of the filter, up to the case of ASCII letters. -/
def accepts (filter : KindFilter) (kind : String) : Bool :=
  filter.kinds.any (Text.equalIgnoringCase · kind)

def decode (doc : Doc) : Option KindFilter :=
  (doc.string?.map .one).or ((doc.listOf Doc.string?).map .many)

def encode : KindFilter → Doc
  | .one kind => .string kind
  | .many kinds => .strings kinds

end KindFilter

namespace CustomColumn

def decode : Doc → Option CustomColumn := Doc.record do
  let title ← Record.required "title" Doc.string?
  let field ← Record.required "field" Doc.string?
  let kind ← Record.optional "kind" KindFilter.decode
  let defaultValue ← Record.optional "defaultValue" Doc.string?
  let width ← Record.optional "width" Doc.uint32?
  let sortable ← Record.optional "sortable" Doc.bool?
  return { title, field, kind, defaultValue, width, sortable }

def encode (column : CustomColumn) : Doc :=
  .object ([("title", .string column.title), ("field", .string column.field)] ++
    optionalMember "kind" KindFilter.encode column.kind ++
    optionalMember "defaultValue" .string column.defaultValue ++
    optionalMember "width" (fun width => .int width.toNat) column.width ++
    optionalMember "sortable" .bool column.sortable)

/-- Whether the table can be sorted by the column. -/
def isSortable (column : CustomColumn) : Bool := column.sortable != some false

end CustomColumn

namespace ColumnConfig

/-- The strings of a list; anything but a list holds none. -/
def stringItems : Doc → List String
  | .array items => items.filterMap Doc.string?
  | _ => []

/-- The columns of a list that decode; anything but a list holds none. -/
def customItems : Doc → List CustomColumn
  | .array items => items.filterMap CustomColumn.decode
  | _ => []

/-- Reads a configuration leniently. Anything but an object is none. -/
def ofDoc? : Doc → Option ColumnConfig
  | .object members => some
    { included := (Members.get? members "include").map stringItems
      excluded := (Members.get? members "exclude").map stringItems
      custom := (Members.get? members "custom").map customItems }
  | _ => none

/-- Decodes a configuration strictly. -/
def decode : Doc → Option ColumnConfig := Doc.record do
  let included ← Record.optional "include" (Doc.listOf Doc.string?)
  let excluded ← Record.optional "exclude" (Doc.listOf Doc.string?)
  let custom ← Record.optional "custom" (Doc.listOf CustomColumn.decode)
  return { included, excluded, custom }

def encode (config : ColumnConfig) : Doc :=
  .object (optionalMember "include" .strings config.included ++
    optionalMember "exclude" .strings config.excluded ++
    optionalMember "custom" (fun columns => .array (columns.map CustomColumn.encode))
      config.custom)

/-- Whether nothing at all is configured. -/
def isUnset (config : ColumnConfig) : Bool :=
  config.included.isNone && config.excluded.isNone && config.custom.isNone

end ColumnConfig

end PortalConfig
