import PortalConfig.Proofs.Document
import PortalConfig.Proofs.Record
import PortalConfig.Visibility.Predicate

/-!
# What an `if` block means

`Visibility.BlockHolds` says which `if` blocks are true of an entity, directly on the document of
the block: the first list that is not `null` decides, and in each atom the first key with a value
that counts as given. Neither conditions nor predicates occur in it.
`Predicate.evaluate_compile_iff` is the agreement of both levels: a block that decodes compiles to a
predicate that accepts exactly the entities of which the block is true.
-/

namespace PortalConfig

/-! ## The meaning of documents -/

/-- Counts as given: everything but `null`, `false`, zero and the empty string. -/
def Visibility.Given (value : Doc) : Prop :=
  value ≠ .null ∧ value ≠ .bool false ∧ value ≠ .string "" ∧
    ∀ n, value = .number n → n.isZero = false

/-- `key` is the first of some keys whose value has the property `p`, and `value` is its value. -/
inductive Members.FirstWith (members : Members Doc) (p : Doc → Prop) :
    List String → String → Doc → Prop
  | here {key : String} {value : Doc} {rest : List String} :
    members.get? key = some value → p value → FirstWith members p (key :: rest) key value
  | later {skipped key : String} {value : Doc} {rest : List String} :
    (∀ other, members.get? skipped = some other → ¬ p other) →
    FirstWith members p rest key value → FirstWith members p (skipped :: rest) key value

/-- The value is the name up to the case of ASCII letters, or a list of strings one of which
is. -/
inductive Visibility.Names : Doc → String → Prop
  | one {text name : String} :
    Text.equalIgnoringCase text name = true → Names (.string text) name
  | listed {texts : List String} {text name : String} :
    text ∈ texts → Text.equalIgnoringCase text name = true → Names (.strings texts) name

/-- What a key with its value says of an entity. -/
inductive Visibility.BindingHolds (entity : Entity) : String → Doc → Prop
  | isKind {value : Doc} {kind : String} :
    entity.doc.get? "kind" = some (.string kind) → Names value kind →
    BindingHolds entity "isKind" value
  | isType {value spec : Doc} {type : String} :
    entity.doc.get? "spec" = some spec → spec.get? "type" = some (.string type) →
    Names value type → BindingHolds entity "isType" value
  | annotated {key : String} {metadata : Doc} {annotations : Members Doc} :
    entity.doc.get? "metadata" = some metadata →
    metadata.get? "annotations" = some (.object annotations) → key ∈ annotations.keys →
    BindingHolds entity "hasAnnotation" (.string key)

/-- An atom is true when it is an object whose first key with a given value says so. -/
def Visibility.AtomHolds (entity : Entity) (atom : Doc) : Prop :=
  ∃ members key value, atom = .object members ∧
    Members.FirstWith members Given ["isKind", "isType", "hasAnnotation"] key value ∧
    BindingHolds entity key value

/-- What a list of atoms says under its key: all of them, at least one, or exactly one is true. -/
inductive Visibility.ListHolds (entity : Entity) : String → List Doc → Prop
  | allOf {atoms : List Doc} :
    (∀ atom ∈ atoms, AtomHolds entity atom) → ListHolds entity "allOf" atoms
  | anyOf {atoms : List Doc} {atom : Doc} :
    atom ∈ atoms → AtomHolds entity atom → ListHolds entity "anyOf" atoms
  | oneOf {before after : List Doc} {atom : Doc} :
    (∀ other ∈ before ++ after, ¬ AtomHolds entity other) → AtomHolds entity atom →
    ListHolds entity "oneOf" (before ++ atom :: after)

/-- Which `if` blocks are true: none at all, `null`, an object whose first list that is not `null`
says so, and an object without a list. -/
inductive Visibility.BlockHolds (entity : Entity) : Option Doc → Prop
  | absent : BlockHolds entity none
  | null : BlockHolds entity (some .null)
  | decided {members : Members Doc} {key : String} {atoms : List Doc} :
    Members.FirstWith members (· ≠ .null) ["allOf", "anyOf", "oneOf"] key (.array atoms) →
    ListHolds entity key atoms → BlockHolds entity (some (.object members))
  | unconditional {members : Members Doc} :
    (∀ key ∈ ["allOf", "anyOf", "oneOf"], ∀ value, members.get? key = some value →
      value = .null) →
    BlockHolds entity (some (.object members))

open Visibility

theorem Members.FirstWith.unique {members : Members Doc} {p : Doc → Prop} {keys : List String}
    {key other : String} {value otherValue : Doc} (first : FirstWith members p keys key value)
    (second : FirstWith members p keys other otherValue) : key = other ∧ value = otherValue := by
  induction first with
  | here found holds =>
      cases second with
      | here also _ => exact ⟨rfl, Option.some.inj (found.symm.trans also)⟩
      | later skipped _ => exact (skipped _ found holds).elim
  | later skipped _ ih =>
      cases second with
      | here found holds => exact (skipped _ found holds).elim
      | later _ rest => exact ih rest

theorem Members.FirstWith.holds {members : Members Doc} {p : Doc → Prop} {keys : List String}
    {key : String} {value : Doc} (first : FirstWith members p keys key value) :
    key ∈ keys ∧ members.get? key = some value ∧ p value := by
  induction first with
  | here found holds => exact ⟨List.mem_cons_self, found, holds⟩
  | later _ _ ih => exact ⟨List.mem_cons_of_mem _ ih.1, ih.2⟩

/-! ## Atoms -/

theorem Condition.isGiven_iff (value : Doc) : isGiven value = true ↔ Given value := by
  unfold Given
  cases value with
  | null => simp [isGiven]
  | bool b => simp [isGiven]
  | number n => simp [isGiven]
  | string s => simp [isGiven]
  | array items => simp [isGiven]
  | object members => simp [isGiven]

theorem Condition.findSome?_given_eq_some_iff {members : Members Doc} {names : List String}
    {key : String} {value : Doc} :
    (names.findSome? fun key => ((members.get? key).filter isGiven).map fun value =>
      (key, value)) = some (key, value) ↔ Members.FirstWith members Given names key value := by
  induction names with
  | nil =>
      constructor
      · intro h
        cases h
      · intro first
        cases first
  | cons name rest ih =>
      rw [List.findSome?_cons]
      cases bound : (members.get? name).filter isGiven with
      | some own =>
          obtain ⟨found, given⟩ := Option.filter_eq_some_iff.1 bound
          have here : Members.FirstWith members Given (name :: rest) name own :=
            .here found ((isGiven_iff own).1 given)
          constructor
          · intro h
            cases h
            exact here
          · intro first
            obtain ⟨rfl, rfl⟩ := here.unique first
            rfl
      | none =>
          have skipped : ∀ other, members.get? name = some other → ¬ Given other := by
            intro other found given
            rw [found, Option.filter_some, if_pos ((isGiven_iff other).2 given)] at bound
            cases bound
          change rest.findSome? _ = _ ↔ _
          rw [ih]
          constructor
          · exact .later skipped
          · intro first
            cases first with
            | here found given => exact (skipped _ found given).elim
            | later _ first => exact first

theorem Condition.binding?_eq_some_iff {members : Members Doc} {key : String} {value : Doc} :
    binding? members = some (key, value) ↔ Members.FirstWith members Given keys key value :=
  findSome?_given_eq_some_iff

theorem Atom.matchesAny_iff {actual : Option String} {expected : List String} :
    matchesAny actual expected = true ↔
      ∃ name, actual = some name ∧
        ∃ text ∈ expected, Text.equalIgnoringCase text name = true := by
  cases actual with
  | none => simp [matchesAny]
  | some name => simp [matchesAny]

/-- The names that a given value holds are compared as the value says. -/
theorem Condition.exists_names?_iff {value : Doc} {name : String} (given : Given value) :
    (∃ texts, names? value = some texts ∧
        ∃ text ∈ texts, Text.equalIgnoringCase text name = true) ↔ Names value name := by
  constructor
  · intro holds
    rcases holds with ⟨texts, read, text, mem, same⟩
    cases value with
    | string own =>
        rw [names?] at read
        split at read
        · cases read
        · obtain rfl := Option.some.inj read
          obtain rfl := List.mem_singleton.1 mem
          exact .one same
    | array items =>
        obtain rfl := Doc.mapM_string?_eq_some_iff.1 read
        exact .listed mem same
    | null | bool _ | number _ | object _ => cases read
  · intro named
    cases named with
    | @one text _ same =>
        have nonempty : text ≠ "" := fun empty => given.2.2.1 (congrArg Doc.string empty)
        refine ⟨[text], ?_, text, List.mem_singleton_self text, same⟩
        rw [names?, if_neg nonempty]
    | @listed texts text _ mem same =>
        exact ⟨texts, Doc.mapM_string?_eq_some_iff.2 rfl, text, mem, same⟩

theorem Entity.kind?_eq_some_iff {entity : Entity} {kind : String} :
    entity.kind? = some kind ↔ entity.doc.get? "kind" = some (.string kind) := by
  simp only [kind?, Option.bind_eq_some_iff, Doc.string?_eq_some_iff, exists_eq_right]

theorem Entity.specType?_eq_some_iff {entity : Entity} {type : String} :
    entity.specType? = some type ↔
      ∃ spec, entity.doc.get? "spec" = some spec ∧ spec.get? "type" = some (.string type) := by
  simp only [specType?, Option.bind_eq_some_iff, Doc.string?_eq_some_iff, exists_eq_right]

theorem Entity.isAnnotated_iff {entity : Entity} {key : String} :
    entity.isAnnotated key = true ↔
      ∃ metadata annotations, entity.doc.get? "metadata" = some metadata ∧
        metadata.get? "annotations" = some (.object annotations) ∧
        key ∈ Members.keys annotations := by
  have read : ∀ annotations, entity.annotations? = some annotations ↔
      ∃ metadata, entity.doc.get? "metadata" = some metadata ∧
        metadata.get? "annotations" = some (.object annotations) := by
    intro annotations
    simp only [annotations?, Option.bind_eq_some_iff, Doc.object?_eq_some_iff, exists_eq_right]
  unfold isAnnotated
  split
  · next annotations found =>
      rw [Option.isSome_iff_ne_none, ne_eq, Members.get?_eq_none_iff, Decidable.not_not]
      obtain ⟨metadata, outer, inner⟩ := (read annotations).1 found
      constructor
      · intro mem
        exact ⟨metadata, annotations, outer, inner, mem⟩
      · intro holds
        rcases holds with ⟨_, other, outer', inner', mem⟩
        have same := found.symm.trans ((read other).2 ⟨_, outer', inner'⟩)
        exact Option.some.inj same ▸ mem
  · next missing =>
      constructor
      · intro h
        cases h
      · intro holds
        rcases holds with ⟨metadata, annotations, outer, inner, -⟩
        rw [(read annotations).2 ⟨metadata, outer, inner⟩] at missing
        cases missing

theorem Visibility.bindingHolds_isKind_iff {entity : Entity} {value : Doc} :
    BindingHolds entity "isKind" value ↔
      ∃ kind, entity.doc.get? "kind" = some (.string kind) ∧ Names value kind := by
  constructor
  · intro holds
    generalize eq : "isKind" = key at holds
    cases holds with
    | isKind found named => exact ⟨_, found, named⟩
    | isType | annotated => exact absurd eq (by decide)
  · intro holds
    rcases holds with ⟨kind, found, named⟩
    exact .isKind found named

theorem Visibility.bindingHolds_isType_iff {entity : Entity} {value : Doc} :
    BindingHolds entity "isType" value ↔
      ∃ type, (∃ spec, entity.doc.get? "spec" = some spec ∧
        spec.get? "type" = some (.string type)) ∧ Names value type := by
  constructor
  · intro holds
    generalize eq : "isType" = key at holds
    cases holds with
    | isType found typed named => exact ⟨_, ⟨_, found, typed⟩, named⟩
    | isKind | annotated => exact absurd eq (by decide)
  · intro holds
    rcases holds with ⟨type, ⟨spec, found, typed⟩, named⟩
    exact .isType found typed named

theorem Visibility.bindingHolds_hasAnnotation_iff {entity : Entity} {value : Doc} :
    BindingHolds entity "hasAnnotation" value ↔
      ∃ name, value = .string name ∧ entity.isAnnotated name = true := by
  constructor
  · intro holds
    generalize eq : "hasAnnotation" = key at holds
    cases holds with
    | annotated outer inner mem =>
        exact ⟨_, rfl, Entity.isAnnotated_iff.2 ⟨_, _, outer, inner, mem⟩⟩
    | isKind | isType => exact absurd eq (by decide)
  · intro holds
    rcases holds with ⟨name, rfl, annotated⟩
    obtain ⟨metadata, annotations, outer, inner, mem⟩ := Entity.isAnnotated_iff.1 annotated
    exact .annotated outer inner mem

/-- The condition that a key with a given value makes tests what the key says. -/
theorem Atom.ofBinding_iff {entity : Entity} {capabilities : Option Capabilities} {key : String}
    {value atom : Doc} (mem : key ∈ Condition.keys) (given : Given value) :
    ofCondition ((Condition.ofBinding? key value).getD (.unknown atom)) entity capabilities =
        true ↔ BindingHolds entity key value := by
  have byName : ∀ (actual : Option String) (make : List String → Condition),
      (∀ names, ofCondition (make names) entity capabilities = matchesAny actual names) →
      (ofCondition (((Condition.names? value).map make).getD (.unknown atom)) entity
        capabilities = true ↔ ∃ name, actual = some name ∧ Names value name) := by
    intro actual make tests
    simp only [← Condition.exists_names?_iff given]
    cases Condition.names? value with
    | none => simp [ofCondition]
    | some names =>
        rw [Option.map_some, Option.getD_some, tests, matchesAny_iff]
        simp only [Option.some.injEq, exists_eq_left']
  simp only [Condition.keys, List.mem_cons, List.not_mem_nil, or_false] at mem
  rcases mem with rfl | rfl | rfl
  · refine (byName entity.kind? .isKind fun _ => rfl).trans ?_
    simp only [Entity.kind?_eq_some_iff, bindingHolds_isKind_iff]
  · refine (byName entity.specType? .isType fun _ => rfl).trans ?_
    simp only [Entity.specType?_eq_some_iff, bindingHolds_isType_iff]
  · change ofCondition ((value.string?.map Condition.annotated).getD (.unknown atom)) entity
      capabilities = true ↔ _
    simp only [bindingHolds_hasAnnotation_iff, ← Doc.string?_eq_some_iff]
    cases value.string? with
    | none => simp [ofCondition]
    | some name => simp [ofCondition]

/-- The test that an atom compiles to is the meaning of the atom. -/
theorem Atom.ofCondition_ofDoc_iff {entity : Entity} {capabilities : Option Capabilities}
    {atom : Doc} :
    ofCondition (Condition.ofDoc atom) entity capabilities = true ↔ AtomHolds entity atom := by
  unfold Condition.ofDoc
  cases bound : atom.object?.bind Condition.binding? with
  | none =>
      constructor
      · intro h
        cases h
      · intro holds
        rcases holds with ⟨members, key, value, rfl, first, -⟩
        have found : Condition.binding? members = none := bound
        rw [Condition.binding?_eq_some_iff.2 first] at found
        cases found
  | some binding =>
      obtain ⟨key, value⟩ := binding
      obtain ⟨members, shape, found⟩ := Option.bind_eq_some_iff.1 bound
      obtain rfl := Doc.object?_eq_some_iff.1 shape
      have first := Condition.binding?_eq_some_iff.1 found
      refine (ofBinding_iff first.holds.1 first.holds.2.2).trans ?_
      constructor
      · intro holds
        exact ⟨members, key, value, rfl, first, holds⟩
      · intro holds
        rcases holds with ⟨_, otherKey, otherValue, ⟨⟩, other, holds⟩
        obtain ⟨rfl, rfl⟩ := first.unique other
        exact holds

/-! ## Lists of atoms -/

/-- Exactly one element passes a test when it stands between others that do not. -/
theorem Visibility.length_filter_eq_one_iff {α : Type} {p : α → Bool} {items : List α} :
    (items.filter p).length = 1 ↔
      ∃ before item after, items = before ++ item :: after ∧
        (∀ other ∈ before ++ after, ¬ p other = true) ∧ p item = true := by
  simp only [List.length_eq_one_iff, List.filter_eq_cons_iff, List.filter_eq_nil_iff,
    List.forall_mem_append]
  constructor
  · intro single
    rcases single with ⟨item, before, after, eq, early, passes, late⟩
    exact ⟨before, item, after, eq, ⟨early, late⟩, passes⟩
  · intro single
    rcases single with ⟨before, item, after, eq, ⟨early, late⟩, passes⟩
    exact ⟨item, before, after, eq, early, passes, late⟩

section Lists

variable {entity : Entity} {capabilities : Option Capabilities} {atoms : List Doc}

theorem Predicate.evaluate_allOf_iff :
    (allOf ((atoms.map Condition.ofDoc).map Atom.ofCondition)).evaluate entity capabilities =
        true ↔ ListHolds entity "allOf" atoms := by
  simp only [evaluate, List.map_map, List.all_map, List.all_eq_true, Function.comp_apply,
    Atom.ofCondition_ofDoc_iff]
  constructor
  · exact .allOf
  · intro holds
    generalize eq : "allOf" = key at holds
    cases holds with
    | allOf all => exact all
    | anyOf | oneOf => exact absurd eq (by decide)

theorem Predicate.evaluate_anyOf_iff :
    (anyOf ((atoms.map Condition.ofDoc).map Atom.ofCondition)).evaluate entity capabilities =
        true ↔ ListHolds entity "anyOf" atoms := by
  simp only [evaluate, List.map_map, List.any_map, List.any_eq_true, Function.comp_apply,
    Atom.ofCondition_ofDoc_iff]
  constructor
  · intro holds
    rcases holds with ⟨atom, mem, holds⟩
    exact .anyOf mem holds
  · intro holds
    generalize eq : "anyOf" = key at holds
    cases holds with
    | anyOf mem atomHolds => exact ⟨_, mem, atomHolds⟩
    | allOf | oneOf => exact absurd eq (by decide)

theorem Predicate.evaluate_oneOf_iff :
    (oneOf ((atoms.map Condition.ofDoc).map Atom.ofCondition)).evaluate entity capabilities =
        true ↔ ListHolds entity "oneOf" atoms := by
  simp only [evaluate, List.map_map, List.filter_map, List.length_map, beq_iff_eq,
    length_filter_eq_one_iff, Function.comp_apply, Atom.ofCondition_ofDoc_iff]
  constructor
  · intro holds
    rcases holds with ⟨before, atom, after, rfl, others, holds⟩
    exact .oneOf others holds
  · intro holds
    generalize eq : "oneOf" = key at holds
    cases holds with
    | oneOf others atomHolds => exact ⟨_, _, _, rfl, others, atomHolds⟩
    | allOf | anyOf => exact absurd eq (by decide)

end Lists

/-! ## Blocks -/

theorem ConditionBlock.decodeOptional_atoms? {given : Option Doc} {read : Option (List Condition)}
    (decoded : Record.decodeOptional atoms? given = some read) :
    (read = none ∧ ∀ doc, given = some doc → doc = .null) ∨
      ∃ atoms, given = some (.array atoms) ∧ read = some (atoms.map Condition.ofDoc) := by
  rcases Record.decodeOptional_eq_some_iff.1 decoded with missing | ⟨doc, found, -, list, eq, rfl⟩
  · exact Or.inl missing
  · cases doc with
    | array atoms =>
        obtain rfl := Option.some.inj eq
        exact Or.inr ⟨atoms, found, rfl⟩
    | null | bool _ | number _ | string _ | object _ => cases eq

theorem ConditionBlock.lists_of_decode {members : Members Doc} {block : ConditionBlock}
    (decoded : decode (.object members) = some block) :
    Record.decodeOptional atoms? (members.get? "allOf") = some block.allOf ∧
      Record.decodeOptional atoms? (members.get? "anyOf") = some block.anyOf ∧
      Record.decodeOptional atoms? (members.get? "oneOf") = some block.oneOf := by
  rw [decode, Doc.record_eq, Record.ofDoc?, Option.bind_some, Record.run_eq_some_iff] at decoded
  obtain ⟨left, ran, -⟩ := decoded
  simp only [Record.optional_bind, Option.bind_eq_some_iff, Record.pure_run] at ran
  obtain ⟨allOf, all, anyOf, any, oneOf, one, eq⟩ := ran
  cases eq
  exact ⟨all, any, one⟩

theorem Visibility.blockHolds_iff_of_first {entity : Entity} {members : Members Doc} {key : String}
    {atoms : List Doc}
    (first : Members.FirstWith members (· ≠ .null) ["allOf", "anyOf", "oneOf"] key
      (.array atoms)) :
    BlockHolds entity (some (.object members)) ↔ ListHolds entity key atoms := by
  constructor
  · intro holds
    cases holds with
    | decided other list =>
        obtain ⟨rfl, eq⟩ := first.unique other
        cases eq
        exact list
    | unconditional missing =>
        obtain ⟨mem, found, notNull⟩ := first.holds
        exact (notNull (missing key mem _ found)).elim
  · exact .decided first

/-- **A predicate accepts the entities of which its block is true.** For a block that decodes,
written as an object or left out. -/
theorem Predicate.evaluate_compile_iff {entity : Entity} {capabilities : Option Capabilities}
    {given : Option Doc} {block : Option ConditionBlock}
    (decoded : Record.decodeOptional ConditionBlock.decode given = some block)
    (shape : ∀ doc, given = some doc → doc = .null ∨ ∃ members, doc = .object members) :
    (compile block).evaluate entity capabilities = true ↔ BlockHolds entity given := by
  rcases Record.decodeOptional_eq_some_iff.1 decoded with
    ⟨rfl, missing⟩ | ⟨doc, rfl, notNull, block, decodedBlock, rfl⟩
  · refine ⟨fun _ => ?_, fun _ => rfl⟩
    cases given with
    | none => exact .absent
    | some doc => exact missing doc rfl ▸ .null
  · obtain ⟨members, rfl⟩ := (shape doc rfl).resolve_left notNull
    obtain ⟨all, any, one⟩ := ConditionBlock.lists_of_decode decodedBlock
    have skip : ∀ {key : String}, (∀ doc, Members.get? members key = some doc → doc = .null) →
        ∀ doc, Members.get? members key = some doc → ¬ doc ≠ .null :=
      fun null doc found notNull => notNull (null doc found)
    rcases ConditionBlock.decodeOptional_atoms? all with ⟨allEq, noAll⟩ | ⟨atoms, found, allEq⟩
    · rcases ConditionBlock.decodeOptional_atoms? any with ⟨anyEq, noAny⟩ | ⟨atoms, found, anyEq⟩
      · rcases ConditionBlock.decodeOptional_atoms? one with
          ⟨oneEq, noOne⟩ | ⟨atoms, found, oneEq⟩
        · simp only [compile, allEq, anyEq, oneEq]
          refine ⟨fun _ => .unconditional ?_, fun _ => rfl⟩
          intro key mem
          simp only [List.mem_cons, List.not_mem_nil, or_false] at mem
          rcases mem with rfl | rfl | rfl
          · exact noAll
          · exact noAny
          · exact noOne
        · simp only [compile, allEq, anyEq, oneEq]
          rw [evaluate_oneOf_iff, blockHolds_iff_of_first
            (.later (skip noAll) (.later (skip noAny) (.here found Doc.noConfusion)))]
      · simp only [compile, allEq, anyEq]
        rw [evaluate_anyOf_iff, blockHolds_iff_of_first
          (.later (skip noAll) (.here found Doc.noConfusion))]
    · simp only [compile, allEq]
      rw [evaluate_allOf_iff, blockHolds_iff_of_first (.here found Doc.noConfusion)]

end PortalConfig
