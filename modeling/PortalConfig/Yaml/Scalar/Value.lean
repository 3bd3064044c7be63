import PortalConfig.Doc.Basic
import PortalConfig.Number.Reading

/-!
# Values of scalars

A plain scalar is `null`, a truth value or a number when it is written like one, and a string
otherwise; any other scalar is a string. A tag of the core schema asks for one kind of value and
fails when the text is not written like it. A local tag asks for a value that no document has.
-/

namespace PortalConfig.Yaml

/-- The words for `null`. -/
def isNullWord (word : String) : Bool := ["null", "Null", "NULL", "~"].contains word

/-- The truth value that a word stands for. -/
def truth? (word : String) : Option Bool :=
  if ["true", "True", "TRUE"].contains word then some true
  else if ["false", "False", "FALSE"].contains word then some false
  else none

/-- The base of a numeral and its digits, if a base is written in front of them. -/
def based? : List Char → Option (Nat × List Char)
  | '0' :: 'x' :: digits => some (16, digits)
  | '0' :: 'o' :: digits => some (8, digits)
  | '0' :: 'b' :: digits => some (2, digits)
  | _ => none

/-- Digits with a zero in front of them are no numeral. -/
def hasLeadingZero : List Char → Bool
  | '0' :: d :: digits => (d :: digits).all Numeral.isDecimal
  | _ => false

/-- The value of a numeral without a sign. -/
def natural? (word : List Char) : Option Nat :=
  match based? word with
  | some (base, digits) => Numeral.readDigits? base digits
  | none => if hasLeadingZero word then none else Numeral.readDigits? 10 word

/-- The integer that a word stands for, if it fits into 128 bits. -/
def integer? : List Char → Option Int
  | '-' :: word => ((natural? word).filter (· ≤ Nat.pow 2 127)).map fun n => -(n : Int)
  | '+' :: word => ((natural? word).filter (· < Nat.pow 2 128)).map Int.ofNat
  | word => ((natural? word).filter (· < Nat.pow 2 128)).map Int.ofNat

/-- A word without its sign. -/
def unsigned : List Char → List Char
  | '-' :: word => word
  | '+' :: word => word
  | word => word

/-- Whether a word stands for something that is no finite number. -/
def isNonFinite (word : String) : Bool :=
  [".inf", ".Inf", ".INF"].contains (String.ofList (unsigned word.toList)) ||
    [".nan", ".NaN", ".NAN"].contains word

/-- The floating-point number that a word stands for. Where it is not finite, documents hold
`null`. -/
def float? (word : String) : Option Doc :=
  if isNonFinite word then some .null
  else ((Binary64.read? word.toList).filter (·.isFinite)).map fun x => .number (.float x)

/-- The integer as a document; integers of more than 64 bits are refused. -/
def integerDoc? (n : Int) : Option Doc := if Number.integerInRange n then some (.int n) else none

/-- The value of a plain scalar. -/
def plainValue? (text : String) : Option Doc :=
  if text.isEmpty || isNullWord text then some .null
  else
    match truth? text with
    | some b => some (.bool b)
    | none =>
      match integer? text.toList with
      | some n => integerDoc? n
      | none =>
        if hasLeadingZero (unsigned text.toList) then some (.string text)
        else some ((float? text).getD (.string text))

namespace Tag

/-- The octets of a tag of the core schema. -/
def core (name : String) : List UInt8 :=
  ("tag:yaml.org,2002:" ++ name).toList.map Char.toUInt8

/-- Whether a tag is local and asks for a value that no document has. A local tag that is no text
says nothing. -/
def isRefused (tag : List UInt8) : Bool :=
  tag.head? == some '!'.toUInt8 && (String.fromUTF8? ⟨tag.toArray⟩).isSome

end Tag

/-- The value of a scalar without a tag. -/
def untaggedValue? (isPlain : Bool) (text : String) : Option Doc :=
  if isPlain then plainValue? text else some (.string text)

/-- The value of a scalar with or without a tag. -/
def scalarValue? (tag : Option (List UInt8)) (isPlain : Bool) (text : String) : Option Doc :=
  match tag with
  | none => untaggedValue? isPlain text
  | some tag =>
    if Tag.isRefused tag then none
    else if tag.head? = some '!'.toUInt8 then untaggedValue? isPlain text
    else if tag = Tag.core "bool" then (truth? text).map .bool
    else if tag = Tag.core "int" then (integer? text.toList).bind integerDoc?
    else if tag = Tag.core "float" then float? text
    else if tag = Tag.core "null" then if isNullWord text then some .null else none
    else some (.string text)

end PortalConfig.Yaml
