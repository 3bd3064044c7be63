import PortalConfig.Source.Files
import PortalConfig.Source.Format

/-!
# Loading documents

A document is loaded from the file at a path in the format that the path says. Loading fails when
the file cannot be read, when its text is no document, or when an entity is asked for and the
document is no object.
-/

namespace PortalConfig

/-- A text that is no document. -/
structure ParseFailure where
  /-- Where the text comes from. -/
  origin : String
  /-- Why it is no document, in the words of the parser. -/
  reason : String
deriving DecidableEq

/-- Why a document could not be loaded. -/
inductive LoadError
  /-- The file at the path cannot be read. -/
  | unreadable (path : String) (failure : ReadFailure)
  /-- The text of a source is no document. -/
  | malformed (failure : ParseFailure)
  /-- The document at the path is no entity. -/
  | notEntity (path : String)
deriving DecidableEq

namespace LoadError

/-- The error in words, but for those of a parser. -/
def message : LoadError → String
  | unreadable path failure => "failed to read " ++ path ++ ": " ++ failure.reason
  | malformed failure => "failed to parse " ++ failure.origin
  | notEntity path => "configuration error: " ++ path ++ " does not contain an entity document"

/-- The words of the parser. -/
def reason? : LoadError → Option String
  | malformed failure => some failure.reason
  | unreadable _ _ | notEntity _ => none

end LoadError

namespace Doc

/-- The document that a text holds. The origin names the text in an error. -/
def ofText (origin content : String) (format : DocumentFormat)
    (parser : DocumentParser := DocumentFormat.parse) : Except LoadError Doc :=
  match format.read content parser with
  | .ok doc => .ok doc
  | .error reason => .error (.malformed { origin, reason })

/-- The document in the file at a path. -/
def ofFile (files : Files) (path : String)
    (parser : DocumentParser := DocumentFormat.parse) : Except LoadError Doc :=
  match files path with
  | .ok content => ofText path content (.ofPath path) parser
  | .error failure => .error (.unreadable path failure)

end Doc

end PortalConfig
