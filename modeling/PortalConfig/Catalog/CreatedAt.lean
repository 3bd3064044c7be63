import PortalConfig.Catalog.Column
import PortalConfig.Time.Reading

/-!
# The creation date column

The column shows the creation date annotation as it is written, if it can be read, and orders rows
by the written form of the instant in universal time. Rows without a readable date come first.
-/

namespace PortalConfig.Column

/-- The annotation that holds the creation date. -/
def createdAtAnnotation : String := "backstage.io/createdAt"

/-- The id of the column. -/
def createdAtId : String := "createdAt"

/-- The instant at which the entity of a row was created. -/
def createdAt? (row : Row) : Option Instant :=
  (row.entity.annotation? createdAtAnnotation).bind Timestamp.read?

/-- The text that rows are ordered by, empty without a readable date. -/
def createdAtKey (row : Row) : String := ((createdAt? row).map Instant.iso).getD ""

def createdAt : Column :=
  { basic (some createdAtId) "Created At" ("entity.metadata.annotations." ++ createdAtAnnotation)
      fun row => ((row.entity.annotation? createdAtAnnotation).filter fun raw =>
        (Timestamp.read? raw).isSome).getD "" with
    order := some fun a b => compare (createdAtKey a) (createdAtKey b) }

end PortalConfig.Column
