import PortalConfig.Json.Reader
import PortalConfig.Text.AsciiCase
import PortalConfig.Text.Blank
import PortalConfig.Yaml.Reader

/-!
# Document formats

A document is written in YAML or in JSON. A file is JSON when its name says so, and YAML
otherwise. A text with nothing but white space in it is `null` in either format.
-/

namespace PortalConfig

/-- The format of a document. -/
inductive DocumentFormat
  | yaml
  | json
deriving DecidableEq

namespace DocumentFormat

/-- The steps of a path that move somewhere. -/
def pathSteps (path : List Char) : List (List Char) :=
  (path.splitOn '/').filter fun step => step ≠ [] ∧ step ≠ ['.']

/-- What follows the last dot of a file name, if something precedes that dot. -/
def extension? (name : List Char) : Option (List Char) :=
  match name.reverse.dropWhile (· != '.') with
  | '.' :: _ :: _ => some (name.reverse.takeWhile (· != '.')).reverse
  | _ => none

/-- The format of the file at a path: JSON for the extension `json` in any letter case. -/
def ofPath (path : String) : DocumentFormat :=
  match (pathSteps path.toList).getLast? with
  | some name =>
    match if name = ['.', '.'] then none else extension? name with
    | some extension =>
      if Text.equalIgnoringCase (String.ofList extension) "json" then .json else .yaml
    | none => .yaml
  | none => .yaml

end DocumentFormat

/-- A way to read the texts of the two formats as documents. It says in words why a text holds
none. -/
abbrev DocumentParser := DocumentFormat → String → Except String Doc

namespace DocumentFormat

/-- The name of the format. -/
def name : DocumentFormat → String
  | .yaml => "YAML"
  | .json => "JSON"

/-- The document that a text which is not blank holds. -/
def parse? : DocumentFormat → String → Option Doc
  | .yaml => Yaml.read?
  | .json => Json.read?

/-- How texts that are not blank are read. -/
def parse : DocumentParser := fun format content =>
  match format.parse? content with
  | some doc => .ok doc
  | none => .error ("not a " ++ format.name ++ " document")

/-- The document that a text holds. -/
def read (format : DocumentFormat) (content : String) (parser : DocumentParser := parse) :
    Except String Doc :=
  if Text.isBlank content.toList then .ok .null else parser format content

end DocumentFormat

end PortalConfig
