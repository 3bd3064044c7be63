import PortalConfig.Diagnostic
import PortalConfig.Plugin.Fragment

/-!
# Findings about plugins

Resolving plugins silently ignores what it does not understand. Linting a frontend reports what is
ignored: keys that are no category, categories and scopes of the wrong shape, sign-in pages that
cannot be registered, and conditions that can never hold. It never changes what is resolved.
-/

namespace PortalConfig

/-- The shape that the value of a category has to have. -/
inductive CategoryShape
  | text
  | map
  | list
deriving DecidableEq

/-- Something in a frontend that resolving ignores. -/
inductive FrontendFinding
  /-- The frontend is no map of scopes. -/
  | notScopes (found : Doc)
  /-- The value of a scope is no map of categories. -/
  | notCategories (scope : String) (found : Doc)
  /-- A key of a scope is no category. -/
  | unknownCategory (scope key : String)
  /-- The value of a category has the wrong shape. -/
  | wrongShape (scope category : String) (expected : CategoryShape) (found : Doc)
  /-- A sign-in page names no export. -/
  | signInPageIgnored (scope : String)
  /-- The atom at a position of a list in the `if` block of a mount point is not understood. -/
  | atomNeverHolds (scope : String) (mountPoint : Nat) (list : String) (position : Nat)

namespace CategoryShape

/-- The shape of a category. -/
def ofCategory (category : String) : CategoryShape :=
  if category = "pluginModule" then .text
  else if category = "menuItems" ∨ category = "routeBindings" ∨ category = "signInPage" then .map
  else .list

/-- Whether a value has the shape. -/
def fits : CategoryShape → Doc → Bool
  | .text, .string _ => true
  | .map, .object _ => true
  | .list, .array _ => true
  | _, _ => false

/-- The name of the shape. -/
def name : CategoryShape → String
  | .text => "a string"
  | .map => "a map"
  | .list => "a list"

end CategoryShape

namespace FrontendFinding

/-- Where frontends stand in the configuration. -/
def root : String := "dynamicPlugins.frontend"

/-- Where a scope stands in the configuration. -/
def scopePlace (scope : String) : String := root ++ "." ++ scope

/-- Where a category of a scope stands in the configuration. -/
def categoryPlace (scope category : String) : String := scopePlace scope ++ "." ++ category

/-- A value of the wrong shape. -/
def wrongKind (place : String) (found : Doc) (expected : String) : Diagnostic :=
  .invalidType place ("found " ++ found.kindName) expected

/-- The diagnostic that reports the finding. -/
def diagnostic : FrontendFinding → Diagnostic
  | notScopes found => wrongKind root found "a map of plugin scopes"
  | notCategories scope found => wrongKind (scopePlace scope) found "a map of extension points"
  | unknownCategory scope key => .unknownKey key (scopePlace scope) Fragment.categories none
  | wrongShape scope category expected found =>
    wrongKind (categoryPlace scope category) found expected.name
  | signInPageIgnored scope => .validation <|
    categoryPlace scope "signInPage" ++ " has no importName; the sign-in page will be ignored"
  | atomNeverHolds scope mountPoint list position => .validation <|
    categoryPlace scope "mountPoints" ++ "[" ++ numeral mountPoint ++ "].config.if." ++ list ++
      "[" ++ numeral position ++ "] matches no known condition " ++
      "(isKind, isType, hasAnnotation) and will always be false"

end FrontendFinding

namespace Lint

open FrontendFinding

/-- The lists of an `if` block. -/
def conditionLists : List String := ["allOf", "anyOf", "oneOf"]

/-- The positions in a list at which an atom is not understood. -/
def unknownAtoms (atoms : List Doc) : List Nat :=
  atoms.zipIdx.filterMap fun (atom, position) =>
    if (Condition.ofDoc atom).isUnknown then some position else none

/-- The lists and positions in a mount point at which an atom is not understood. -/
def mountPointAtoms (mountPoint : Doc) : List (String × Nat) :=
  match (mountPoint.get? "config").bind (·.get? "if") with
  | none => []
  | some block => conditionLists.flatMap fun list =>
      match (block.get? list).bind Doc.array? with
      | none => []
      | some atoms => (unknownAtoms atoms).map fun position => (list, position)

/-- The findings about a list of mount points. -/
def mountPoints (scope : String) (entries : List Doc) : List FrontendFinding :=
  entries.zipIdx.flatMap fun (entry, index) =>
    (mountPointAtoms entry).map fun (list, position) => atomNeverHolds scope index list position

/-- Whether a sign-in page names an export. -/
def namesExport (page : Doc) : Bool :=
  match (page.get? "importName").bind Doc.string? with
  | some name => name != ""
  | none => false

/-- The findings about a value of the right shape. -/
def categoryContent (scope category : String) (value : Doc) : List FrontendFinding :=
  if category = "signInPage" ∧ !namesExport value then [signInPageIgnored scope]
  else if category = "mountPoints" then mountPoints scope (value.array?.getD [])
  else []

/-- The findings about one key of a scope. -/
def category (scope key : String) (value : Doc) : List FrontendFinding :=
  let shape := CategoryShape.ofCategory key
  if key ∉ Fragment.categories then [unknownCategory scope key]
  else if value.isNull then []
  else if shape.fits value then categoryContent scope key value
  else [wrongShape scope key shape value]

/-- The findings about a scope. -/
def scope (name : String) : Doc → List FrontendFinding
  | .object members => members.flatMap fun (key, value) => category name key value
  | .null => []
  | found => [notCategories name found]

/-- The findings about a frontend. -/
def frontend : Doc → List FrontendFinding
  | .object scopes => scopes.flatMap fun (name, fragment) => scope name fragment
  | .null => []
  | found => [notScopes found]

end Lint

end PortalConfig
