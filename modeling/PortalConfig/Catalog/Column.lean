import PortalConfig.Catalog.Row

/-!
# Columns of the catalog table

A column renders a cell for a row and may bring an order of rows with it.
-/

namespace PortalConfig

/-- A column. -/
structure Column where
  /-- The id of a built-in column; columns of the user's own have none. -/
  id : Option String
  title : String
  field : String
  /-- `some false` switches sorting off. -/
  sorting : Option Bool
  width : Option String
  hidden : Bool
  render : Row → String
  order : Option (Row → Row → Ordering)

namespace Column

/-- A column with an id, a title, the field it stands for and its cells, and nothing else set. -/
def basic (id : Option String) (title field : String) (render : Row → String) : Column where
  id
  title
  field
  sorting := none
  width := none
  hidden := false
  render
  order := none

/-- Whether the table can be sorted by the column. -/
def isSortable (column : Column) : Bool := column.sorting != some false

def encode (column : Column) : Doc :=
  .object [("id", .ofOption .string column.id), ("title", .string column.title),
    ("field", .string column.field), ("width", .ofOption .string column.width),
    ("hidden", .bool column.hidden), ("sortable", .bool column.isSortable)]

end Column

end PortalConfig
