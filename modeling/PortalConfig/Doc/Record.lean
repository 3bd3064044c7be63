import PortalConfig.Doc.Basic

/-!
# Reading records out of documents

A record may be written as an object, its fields by name, or as a list, its fields by position in
the order in which they are read. Members of an object that belong to no field are ignored; a list
may leave out fields at its end, and has no surplus items. `Doc.record` runs a reading of fields on
either form.
-/

namespace PortalConfig

/-- What is left to read of a record. -/
inductive Record
  | named (members : Members Doc)
  | listed (items : List Doc)

/-- A reading of the fields of a record, one after the other. -/
abbrev RecordReader := StateT Record Option

namespace Record

/-- The value given for the next field, if any. A field that is given under its name and under
its other name is refused. -/
def field (name : String) (otherName : Option String) : RecordReader (Option Doc)
  | .named members =>
    match members.get? name, otherName.bind members.get? with
    | some _, some _ => none
    | some value, none => some (some value, .named members)
    | none, other => some (other, .named members)
  | .listed [] => some (none, .listed [])
  | .listed (item :: rest) => some (some item, .listed rest)

/-- A field that has to be there. -/
def required (name : String) (decode : Doc → Option α) : RecordReader α := do
  match ← field name none with
  | some value => StateT.lift (decode value)
  | none => failure

/-- What a field that may be missing or `null` holds. -/
def decodeOptional (decode : Doc → Option α) : Option Doc → Option (Option α)
  | none => some none
  | some .null => some none
  | some value => (decode value).map some

/-- A field that may be missing or `null`. -/
def optional (name : String) (decode : Doc → Option α) : RecordReader (Option α) := do
  StateT.lift (decodeOptional decode (← field name none))

/-- A field that may be missing or `null` and has another name. -/
def optionalAlso (name otherName : String) (decode : Doc → Option α) :
    RecordReader (Option α) := do
  StateT.lift (decodeOptional decode (← field name (some otherName)))

/-- A field whose value counts as missing when it does not decode. -/
def lenient (name : String) (decode : Doc → Option α) : RecordReader (Option α) := do
  return (← field name none).bind decode

/-- A field with a default, which only a missing field takes. -/
def withDefault (name : String) (default : α) (decode : Doc → Option α) : RecordReader α := do
  match ← field name none with
  | some value => StateT.lift (decode value)
  | none => return default

/-- Whether nothing is left over: a list has to be used up. -/
def isDone : Record → Bool
  | .named _ => true
  | .listed items => items.isEmpty

/-- Runs a reading on a whole record. -/
def run (reader : RecordReader α) (record : Record) : Option α := do
  let (value, rest) ← StateT.run reader record
  guard rest.isDone
  return value

end Record

namespace Doc

/-- Decodes a record in either form. -/
def record (reader : RecordReader α) : Doc → Option α
  | .object members => (Record.named members).run reader
  | .array items => (Record.listed items).run reader
  | _ => none

/-- Decodes a record that has no other members than those named. -/
def closedRecord (names : List String) (reader : RecordReader α) (doc : Doc) : Option α :=
  match doc with
  | .object members => if members.all fun m => names.contains m.1 then doc.record reader else none
  | _ => doc.record reader

/-- Decodes every item of a list. -/
def listOf (decode : Doc → Option α) (doc : Doc) : Option (List α) :=
  doc.array?.bind fun items => items.mapM decode

/-- Decodes every member of an object. -/
def mapOf (decode : Doc → Option α) (doc : Doc) : Option (Members α) :=
  doc.object?.bind fun members => members.mapM fun (key, value) =>
    (decode value).map fun a => (key, a)

/-- A signed integer of sixty-four bits; floating-point numbers are none. -/
def int64? : Doc → Option Int64
  | .number (.int n) =>
    if Int64.minValue.toInt ≤ n ∧ n ≤ Int64.maxValue.toInt then some (Int64.ofInt n) else none
  | _ => none

/-- An unsigned integer of thirty-two bits. -/
def uint32? : Doc → Option UInt32
  | .number (.int n) => if 0 ≤ n ∧ n < UInt32.size then some (UInt32.ofNat n.toNat) else none
  | _ => none

end Doc

end PortalConfig
