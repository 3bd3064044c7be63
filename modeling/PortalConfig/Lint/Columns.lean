import PortalConfig.Catalog.Config
import PortalConfig.Diagnostic

/-!
# Findings about columns

The ids of a column configuration that no column has are skipped when the columns are composed,
and a column of the user's own whose kinds no catalog has never shows. Linting reports both.
-/

namespace PortalConfig

/-- Which of the two lists of ids. -/
inductive ColumnList
  | included
  | excluded
deriving DecidableEq

/-- Something in a column configuration that names nothing. -/
inductive ColumnFinding
  /-- An id that no column has. -/
  | unknownId (list : ColumnList) (id : String)
  /-- A kind of a column of the user's own that no catalog has. -/
  | unknownKind (column : Nat) (kind : String)
deriving DecidableEq

namespace ColumnList

/-- The key of the list in the configuration. -/
def key : ColumnList → String
  | .included => "include"
  | .excluded => "exclude"

/-- The ids in the list. -/
def ids (config : ColumnConfig) : ColumnList → List String
  | .included => config.included.getD []
  | .excluded => config.excluded.getD []

end ColumnList

namespace ColumnFinding

/-- Where column configurations stand in the configuration. -/
def root : String := "catalog.table.columns"

/-- The diagnostic that reports the finding. -/
def diagnostic : ColumnFinding → Diagnostic
  | unknownId list id => .unknownKey id (root ++ "." ++ list.key) columnIds none
  | unknownKind column kind =>
    .unknownKey kind (root ++ ".custom[" ++ numeral column ++ "].kind") knownKinds none

end ColumnFinding

namespace Lint

/-- The findings about one of the lists of ids. -/
def columnList (config : ColumnConfig) (list : ColumnList) : List ColumnFinding :=
  ((list.ids config).filter (· ∉ columnIds)).map (.unknownId list)

/-- The kinds of a column of the user's own that no catalog has. -/
def unknownKinds (column : CustomColumn) : List String :=
  match column.kind with
  | some filter => filter.kinds.filter fun kind => Text.asciiLower kind ∉ knownKinds
  | none => []

/-- The findings about a column configuration. -/
def columns (config : ColumnConfig) : List ColumnFinding :=
  columnList config .included ++ columnList config .excluded ++
    (config.custom.getD []).zipIdx.flatMap fun (column, index) =>
      (unknownKinds column).map (.unknownKind index)

end Lint

end PortalConfig
