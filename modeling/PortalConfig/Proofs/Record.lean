import PortalConfig.Doc.Record

/-!
# Reading records

Both forms of a record are read alike: each field takes the next value (`Record.next`) and leaves
a rest (`Record.rest`), which for an object is the object itself and for a list its tail. One
equation for each kind of field says what it reads before the rest of the reader runs; a whole
reader is run by rewriting with them.
-/

namespace PortalConfig

variable {α β : Type}

/-! ## The two forms -/

/-- The value that a record gives for its next field. -/
def Record.next (name : String) : Record → Option Doc
  | .named members => members.get? name
  | .listed items => items.head?

/-- What is left of a record after one field. -/
def Record.rest : Record → Record
  | .named members => .named members
  | .listed items => .listed items.tail

/-- The record that a document writes, if it has one of the two forms. -/
def Record.ofDoc? : Doc → Option Record
  | .object members => some (.named members)
  | .array items => some (.listed items)
  | _ => none

theorem Doc.record_eq (reader : RecordReader α) (doc : Doc) :
    Doc.record reader doc = (Record.ofDoc? doc).bind (Record.run reader) := by
  cases doc <;> rfl

theorem Record.run_eq_bind (reader : RecordReader α) (record : Record) :
    Record.run reader record =
      (StateT.run reader record).bind fun read => if read.2.isDone then some read.1 else none := by
  change ((StateT.run reader record).bind fun read =>
    (guard (read.2.isDone = true) : Option Unit).bind fun _ => some read.1) = _
  refine congrArg (StateT.run reader record).bind (funext fun read => ?_)
  unfold guard
  split <;> rfl

theorem Record.run_eq_some_iff {reader : RecordReader α} {record : Record} {value : α} :
    Record.run reader record = some value ↔
      ∃ left, StateT.run reader record = some (value, left) ∧ left.isDone = true := by
  rw [run_eq_bind, Option.bind_eq_some_iff]
  constructor
  · intro holds
    rcases holds with ⟨⟨read, left⟩, ran, kept⟩
    obtain ⟨done, eq⟩ := Option.ite_none_right_eq_some.1 kept
    obtain rfl : read = value := Option.some.inj eq
    exact ⟨left, ran, done⟩
  · intro holds
    rcases holds with ⟨left, ran, done⟩
    exact ⟨(value, left), ran, if_pos done⟩

/-! ## What each kind of field reads -/

theorem Record.field_run (name : String) (record : Record) :
    StateT.run (field name none) record = some (record.next name, record.rest) := by
  cases record with
  | named members =>
      simp only [StateT.run, field, next, rest, Option.bind_none]
      cases members.get? name <;> rfl
  | listed items => cases items <;> rfl

theorem Record.field_bind (name : String) (andThen : Option Doc → RecordReader α)
    (record : Record) :
    StateT.run (field name none >>= andThen) record =
      StateT.run (andThen (record.next name)) record.rest := by
  change (StateT.run (field name none) record).bind _ = _
  rw [field_run]
  rfl

theorem Record.required_bind (name : String) (decode : Doc → Option α)
    (andThen : α → RecordReader β) (record : Record) :
    StateT.run (required name decode >>= andThen) record =
      ((record.next name).bind decode).bind fun value =>
        StateT.run (andThen value) record.rest := by
  rw [required, bind_assoc, field_bind]
  cases record.next name with
  | none => rfl
  | some doc =>
      change (StateT.run (StateT.lift (decode doc)) record.rest).bind _ =
        (decode doc).bind fun value => StateT.run (andThen value) record.rest
      cases decode doc <;> rfl

theorem Record.optional_bind (name : String) (decode : Doc → Option α)
    (andThen : Option α → RecordReader β) (record : Record) :
    StateT.run (optional name decode >>= andThen) record =
      (decodeOptional decode (record.next name)).bind fun value =>
        StateT.run (andThen value) record.rest := by
  rw [optional, bind_assoc, field_bind]
  change (StateT.run (StateT.lift (decodeOptional decode (record.next name))) record.rest).bind _ =
    _
  cases decodeOptional decode (record.next name) <;> rfl

/-- A field whose other name is not given is read like any other. -/
theorem Record.optionalAlso_bind {otherName : String} {record : Record}
    (absent : ∀ members, record = .named members → members.get? otherName = none) (name : String)
    (decode : Doc → Option α) (andThen : Option α → RecordReader β) :
    StateT.run (optionalAlso name otherName decode >>= andThen) record =
      (decodeOptional decode (record.next name)).bind fun value =>
        StateT.run (andThen value) record.rest := by
  have same : StateT.run (field name (some otherName)) record =
      StateT.run (field name none) record := by
    cases record with
    | named members =>
        simp only [StateT.run, field, Option.bind_some, Option.bind_none, absent members rfl]
    | listed items => cases items <;> rfl
  change ((StateT.run (field name (some otherName)) record).bind fun read =>
    StateT.run (StateT.lift (decodeOptional decode read.1)) read.2).bind _ = _
  rw [same, field_run, Option.bind_some]
  change (StateT.run (StateT.lift (decodeOptional decode (record.next name))) record.rest).bind _ =
    _
  cases decodeOptional decode (record.next name) <;> rfl

theorem Record.withDefault_bind (name : String) (default : α) (decode : Doc → Option α)
    (andThen : α → RecordReader β) (record : Record) :
    StateT.run (withDefault name default decode >>= andThen) record =
      (((record.next name).map decode).getD (some default)).bind fun value =>
        StateT.run (andThen value) record.rest := by
  rw [withDefault, bind_assoc, field_bind]
  cases record.next name with
  | none => rfl
  | some doc =>
      change (StateT.run (StateT.lift (decode doc)) record.rest).bind _ =
        (decode doc).bind fun value => StateT.run (andThen value) record.rest
      cases decode doc <;> rfl

theorem Record.lenient_bind (name : String) (decode : Doc → Option α)
    (andThen : Option α → RecordReader β) (record : Record) :
    StateT.run (lenient name decode >>= andThen) record =
      StateT.run (andThen ((record.next name).bind decode)) record.rest := by
  rw [lenient, bind_assoc, field_bind]
  rfl

theorem Record.pure_run (value : α) (record : Record) :
    StateT.run (pure value : RecordReader α) record = some (value, record) := rfl

/-- What a field that may be missing or `null` holds is read off its value. -/
theorem Record.decodeOptional_eq_some_iff {decode : Doc → Option α} {given : Option Doc}
    {value : Option α} :
    decodeOptional decode given = some value ↔
      (value = none ∧ ∀ doc, given = some doc → doc = .null) ∨
      ∃ doc, given = some doc ∧ doc ≠ .null ∧ ∃ read, decode doc = some read ∧
        value = some read := by
  unfold decodeOptional
  split
  · simp [eq_comm]
  · simp [eq_comm]
  · next doc notNull =>
      simp only [Option.map_eq_some_iff, Option.some.injEq, forall_eq']
      constructor
      · intro holds
        rcases holds with ⟨read, eq, rfl⟩
        exact Or.inr ⟨doc, rfl, notNull, read, eq, rfl⟩
      · intro holds
        rcases holds with ⟨-, null⟩ | ⟨_, rfl, -, read, eq, rfl⟩
        · exact (notNull null).elim
        · exact ⟨read, eq, rfl⟩

end PortalConfig
