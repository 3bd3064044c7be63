import PortalConfig.Entity
import PortalConfig.Doc.Record

/-!
# Visibility conditions

A condition is one atom of an `if` block. Its shape is settled once, when configuration is read:
the first of the keys `isKind`, `isType`, `hasAnnotation` with a value that counts as given binds
it, and an atom that is not understood is kept as it was written. `encode` writes a condition back
to its configuration form.
-/

namespace PortalConfig

/-- Something that a frontend offers to conditions supplied as code. -/
inductive Capability
  | strings (values : List String)
  | count (value : Int)

/-- The capabilities on offer, by id. -/
abbrev Capabilities := Keyed Capability

/-- One atom of an `if` block. -/
inductive Condition
  /-- A condition supplied as code. -/
  | callable (holds : Entity → Option Capabilities → Bool)
  /-- The kind is one of these, up to letter case. -/
  | isKind (kinds : List String)
  /-- The type is one of these, up to letter case. -/
  | isType (types : List String)
  /-- The annotation is there. -/
  | annotated (key : String)
  /-- An atom that is not understood. It never holds. -/
  | unknown (doc : Doc)

namespace Condition

/-- Whether a value counts as given: not `null`, `false`, zero or the empty string. -/
def isGiven : Doc → Bool
  | .null => false
  | .bool b => b
  | .number n => !n.isZero
  | .string s => s != ""
  | .array _ => true
  | .object _ => true

/-- The names to compare with: one non-empty string, or a list of strings. -/
def names? : Doc → Option (List String)
  | .string s => if s = "" then none else some [s]
  | .array items => items.mapM Doc.string?
  | _ => none

/-- The condition that a key with a given value makes. -/
def ofBinding? (key : String) (value : Doc) : Option Condition :=
  if key = "isKind" then (names? value).map .isKind
  else if key = "isType" then (names? value).map .isType
  else value.string?.map .annotated

/-- The keys of a condition, in order of precedence. -/
def keys : List String := ["isKind", "isType", "hasAnnotation"]

/-- The first key with a given value, and that value. -/
def binding? (members : Members Doc) : Option (String × Doc) :=
  keys.findSome? fun key => ((members.get? key).filter isGiven).map fun value => (key, value)

/-- Tags an atom. -/
def ofDoc (doc : Doc) : Condition :=
  let bound := (doc.object?.bind binding?).bind fun (key, value) => ofBinding? key value
  bound.getD (.unknown doc)

def isUnknown : Condition → Bool
  | .unknown _ => true
  | _ => false

/-- Equality of conditions as values. Conditions supplied as code are not compared. -/
def equal : Condition → Condition → Bool
  | .isKind a, .isKind b => a == b
  | .isType a, .isType b => a == b
  | .annotated a, .annotated b => a == b
  | .unknown a, .unknown b => a.equal b
  | _, _ => false

/-- A single name stands for itself, any other number of them as a list. -/
def encodeNames : List String → Doc
  | [name] => .string name
  | names => .strings names

/-- The configuration form. A condition supplied as code has none. -/
def encode : Condition → Doc
  | .callable _ => .null
  | .isKind kinds => .object [("isKind", encodeNames kinds)]
  | .isType types => .object [("isType", encodeNames types)]
  | .annotated key => .object [("hasAnnotation", .string key)]
  | .unknown doc => doc

end Condition

/-- The `if` block of a mount point. -/
structure ConditionBlock where
  allOf : Option (List Condition)
  anyOf : Option (List Condition)
  oneOf : Option (List Condition)

namespace ConditionBlock

/-- A list of atoms; every value is an atom, understood or not. -/
def atoms? (doc : Doc) : Option (List Condition) := doc.array?.map (·.map Condition.ofDoc)

/-- Decodes an `if` block. -/
def decode : Doc → Option ConditionBlock := Doc.record do
  let allOf ← Record.optional "allOf" atoms?
  let anyOf ← Record.optional "anyOf" atoms?
  let oneOf ← Record.optional "oneOf" atoms?
  return { allOf, anyOf, oneOf }

/-- A member that is left out when there is nothing to say. -/
def encodeList (key : String) (atoms : Option (List Condition)) : Members Doc :=
  match atoms with
  | some atoms => [(key, .array (atoms.map Condition.encode))]
  | none => []

def encode (block : ConditionBlock) : Doc :=
  .object (encodeList "allOf" block.allOf ++ encodeList "anyOf" block.anyOf ++
    encodeList "oneOf" block.oneOf)

/-- All atoms of the three lists. -/
def conditions (block : ConditionBlock) : List Condition :=
  block.allOf.getD [] ++ block.anyOf.getD [] ++ block.oneOf.getD []

end ConditionBlock

end PortalConfig
