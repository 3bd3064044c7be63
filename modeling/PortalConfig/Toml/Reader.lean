import PortalConfig.Toml.Statement

/-!
# Reading TOML documents

A document is the root table that its statements define. A byte order mark at its beginning is
left out.
-/

namespace PortalConfig.Toml

/-- Leaves out a byte order mark. -/
def skipMark : List Char → List Char
  | '\uFEFF' :: rest => rest
  | text => text

/-- The root table of a document. -/
def read? (text : String) : Option (List (String × Value)) :=
  (statements? (skipMark text.toList)).bind tableOf?

end PortalConfig.Toml
