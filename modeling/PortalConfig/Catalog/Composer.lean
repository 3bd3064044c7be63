import PortalConfig.Catalog.Builtin
import PortalConfig.Catalog.Config

/-!
# Composing the columns of a view

Without configuration a view shows its default columns and the creation date. A list of ids to
include, when there are any, says exactly which built-in columns to show, in its order; otherwise
the ids to exclude are taken out of the defaults. Columns of the user's own that apply to the view
come last.
-/

namespace PortalConfig

namespace CustomColumn

/-- The width in pixels; zero is no width. -/
def widthText? (column : CustomColumn) : Option String :=
  (column.width.filter (0 < ·)).map fun width => numeral width.toNat ++ "px"

/-- The text of the column's field, nothing as the empty text. -/
def fieldText (column : CustomColumn) (row : Row) : String :=
  (row.entity.lookupText? column.field).getD ""

/-- The column that the configuration describes. -/
def toColumn (column : CustomColumn) : Column :=
  { Column.basic none column.title ("entity." ++ column.field) fun row =>
      (row.entity.lookupText? column.field).getD (column.defaultValue.getD "") with
    width := column.widthText?
    sorting := if column.isSortable then none else some false
    order :=
      if column.isSortable then
        some fun a b => compare (column.fieldText a) (column.fieldText b)
      else none }

/-- Whether the column applies to a view of this kind. A column without a filter applies to every
view, and every column applies to a view without a kind or with an empty one. -/
def appliesTo (column : CustomColumn) (kind : Option String) : Bool :=
  match column.kind, kind.filter (· != "") with
  | some filter, some kind => filter.accepts kind
  | _, _ => true

end CustomColumn

namespace Column

/-- The default columns of a view and the creation date. -/
def defaultsWithDate (view : CatalogView) : List Column := defaults view ++ [createdAt]

/-- The column with an id. -/
def ofId? (id : String) : Option Column :=
  if id = createdAtId then some createdAt else builtin? id

/-- The built-in columns that a configuration leaves a view. -/
def configured (config : ColumnConfig) (view : CatalogView) : List Column :=
  match config.included.getD [] with
  | [] => (defaultsWithDate view).filter fun column =>
      !(column.id.any (config.excluded.getD []).contains)
  | ids => ids.filterMap ofId?

/-- The columns of the user's own that apply to a view. -/
def custom (config : ColumnConfig) (view : CatalogView) : List Column :=
  ((config.custom.getD []).filter (·.appliesTo view.kind)).map CustomColumn.toColumn

/-- The columns of a view. -/
def compose (config : Option ColumnConfig) (view : CatalogView) : List Column :=
  match config.filter (!·.isUnset) with
  | some config => configured config view ++ custom config view
  | none => defaultsWithDate view

end Column

end PortalConfig
