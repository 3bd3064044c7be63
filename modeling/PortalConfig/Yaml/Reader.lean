import PortalConfig.Yaml.Node.Reader
import PortalConfig.Yaml.Node.Value
import PortalConfig.Yaml.Tokens.Reader

/-!
# Reading documents from YAML

A YAML text holds one document, possibly with directives in front of it and marks around it.
-/

namespace PortalConfig.Yaml

/-- The handles of the directives at the front, and the tokens after them. There is at most one
version, which is 1.1 or 1.2, and at most one directive for a handle. -/
def directives? (hasVersion : Bool) (handles : Handles) :
    List Token → Option (Handles × List Token)
  | .versionDirective major minor :: rest =>
    if !hasVersion && major == 1 && (minor == 1 || minor == 2) then directives? true handles rest
    else none
  | .tagDirective handle start :: rest =>
    if (handles.lookup handle).isSome then none
    else directives? hasVersion (handles ++ [(handle, start)]) rest
  | tokens => some (handles ++ Handles.standard, tokens)

/-- Whether a document whose first token this is begins with directives or a mark. -/
def Token.beginsExplicit : Token → Bool
  | .versionDirective .. | .tagDirective .. | .documentStart => true
  | _ => false

/-- The root of a document with its mark, and the tokens after it. -/
def explicitRoot? (tokens : List Token) : Option (Node String × List Token) :=
  match directives? false [] tokens with
  | some (_, [.documentStart]) => some (.empty, [])
  | some (handles, .documentStart :: rest) =>
    (Node.readOrEmpty? handles .root rest).map fun root => (root.value, root.rest)
  | _ => none

/-- The root of a document, and the tokens after it. -/
def root? (tokens : List Token) : Option (Node String × List Token) :=
  if tokens.isEmpty then some (.empty, [])
  else if tokens.head?.any (·.beginsExplicit) then explicitRoot? tokens
  else (Node.read? Handles.standard .root tokens).map fun root => (root.value, root.rest)

/-- The document that a YAML text holds. -/
def read? (text : String) : Option Doc := do
  guard (text.toList.all isAllowed)
  let (root, rest) ← root? (← tokens? text)
  guard (rest.all (· == .documentEnd))
  root.doc?

end PortalConfig.Yaml
