import PortalConfig.Keyed
import PortalConfig.Number.Basic

/-!
# Documents

A document is what a configuration file or an entity description holds once its format is set
aside: `null`, truth values, numbers, strings, lists and objects. The members of an object keep
their order.
-/

namespace PortalConfig

/-- A document. -/
inductive Doc
  | null
  | bool (value : Bool)
  | number (value : Number)
  | string (value : String)
  | array (items : List Doc)
  | object (members : List (String × Doc))

namespace Doc

instance : Inhabited Doc := ⟨.null⟩

/-- An integer. -/
abbrev int (n : Int) : Doc := .number (.int n)

/-- A string, or `null` when there is none. -/
def ofOption (f : α → Doc) : Option α → Doc
  | none => .null
  | some a => f a

/-- A list of strings. -/
def strings (items : List String) : Doc := .array (items.map .string)

def isNull : Doc → Bool
  | .null => true
  | _ => false

/-- The text of a string. -/
def string? : Doc → Option String
  | .string s => some s
  | _ => none

/-- The truth value. -/
def bool? : Doc → Option Bool
  | .bool b => some b
  | _ => none

/-- The items of a list. -/
def array? : Doc → Option (List Doc)
  | .array items => some items
  | _ => none

/-- The members of an object. -/
def object? : Doc → Option (Members Doc)
  | .object members => some members
  | _ => none

/-- The member of an object with this key. -/
def get? (doc : Doc) (key : String) : Option Doc := doc.object?.bind (·.get? key)

/-- The word for the kind of value in a message. -/
def kindName : Doc → String
  | .null => "null"
  | .bool _ => "boolean"
  | .number _ => "number"
  | .string _ => "string"
  | .array _ => "array"
  | .object _ => "object"

mutual

/-- Equality of documents as values: numbers compare as numbers and objects as maps, so the order
of members does not count. -/
def equal : Doc → Doc → Bool
  | .null, .null => true
  | .bool a, .bool b => a == b
  | .number a, .number b => a.equal b
  | .string a, .string b => a == b
  | .array a, .array b => equalItems a b
  | .object a, .object b => a.length == b.length && equalMembers a b
  | _, _ => false

/-- Lists are equal when they agree item by item. -/
def equalItems : List Doc → List Doc → Bool
  | [], [] => true
  | a :: as, b :: bs => equal a b && equalItems as bs
  | _, _ => false

/-- Every member of the first object has an equal one in the second. -/
def equalMembers : List (String × Doc) → Members Doc → Bool
  | [], _ => true
  | (key, a) :: rest, other =>
    (match other.get? key with
      | some b => equal a b
      | none => false) && equalMembers rest other

end

mutual

/-- Whether no object in the document repeats a key, as in every document read from text. -/
def KeysDistinct : Doc → Prop
  | .array items => ItemsDistinct items
  | .object members => (Members.keys members).Nodup ∧ MembersDistinct members
  | _ => True

def ItemsDistinct : List Doc → Prop
  | [] => True
  | item :: rest => KeysDistinct item ∧ ItemsDistinct rest

def MembersDistinct : List (String × Doc) → Prop
  | [] => True
  | (_, value) :: rest => KeysDistinct value ∧ MembersDistinct rest

end

end Doc

end PortalConfig
