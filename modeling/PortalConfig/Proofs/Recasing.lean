import PortalConfig.Proofs.Columns.Composition
import PortalConfig.Proofs.LetterCase
import PortalConfig.Proofs.Visibility.Rereading

/-!
# Kinds and types in other letter case

Kinds and types occur in entities, in conditions, in views and in the filters of columns. The
relations `Recased` replace them there by texts that are the same up to the case of ASCII letters
and leave everything else alone. Wherever they are compared, only the lower-cased texts count
(`Atom.matchesAny_eq`, `KindFilter.accepts_eq`, `CatalogView.kindLower`), so neither the verdict of
a block (`ConditionBlock.Recased.evaluate_eq`) nor the columns of a view
(`ColumnConfig.Recased.compose_eq`) can tell them apart. Two things are beyond such comparisons. A
condition supplied as code is handed the entity itself and may look at its letters, and the filter
of a column is not asked about the empty kind (`Entity.Recased.told_apart`).
-/

namespace PortalConfig

/-! ## Replacing kinds and types -/

/-- The entity with its kind, its type or both replaced, any number of times. -/
inductive Entity.Recased (entity : Entity) : Entity → Prop
  | same : Recased entity entity
  | kind {members : Members Doc} {old new : String} :
    Recased entity ⟨.object members⟩ → members.get? "kind" = some (.string old) →
    Text.SameUpToCase old new → Recased entity ⟨.object (members.insert "kind" (.string new))⟩
  | specType {members spec : Members Doc} {old new : String} :
    Recased entity ⟨.object members⟩ → members.get? "spec" = some (.object spec) →
    spec.get? "type" = some (.string old) → Text.SameUpToCase old new →
    Recased entity
      ⟨.object (members.insert "spec" (.object (spec.insert "type" (.string new))))⟩

/-- The condition with its names replaced. -/
inductive Condition.Recased : Condition → Condition → Prop
  | isKind {kinds others : List String} :
    List.Forall₂ Text.SameUpToCase kinds others → Recased (.isKind kinds) (.isKind others)
  | isType {types others : List String} :
    List.Forall₂ Text.SameUpToCase types others → Recased (.isType types) (.isType others)
  | annotated {key : String} : Recased (.annotated key) (.annotated key)
  | unknown {doc : Doc} : Recased (.unknown doc) (.unknown doc)
  | callable {test : Entity → Option Capabilities → Bool} :
    Recased (.callable test) (.callable test)

/-- The block with its conditions replaced. -/
structure ConditionBlock.Recased (block otherBlock : ConditionBlock) : Prop where
  allOf : Option.Rel (List.Forall₂ Condition.Recased) block.allOf otherBlock.allOf
  anyOf : Option.Rel (List.Forall₂ Condition.Recased) block.anyOf otherBlock.anyOf
  oneOf : Option.Rel (List.Forall₂ Condition.Recased) block.oneOf otherBlock.oneOf

/-- The conditions of the list that decides, which is the first one that is there. -/
def ConditionBlock.deciding (block : ConditionBlock) : List Condition :=
  (block.allOf.or (block.anyOf.or block.oneOf)).getD []

/-- No condition that is supplied as code and has a say in the block tells the entities apart. -/
def ConditionBlock.CodeAgrees (block : ConditionBlock) (entity other : Entity)
    (capabilities : Option Capabilities) : Prop :=
  ∀ test, .callable test ∈ block.deciding → test entity capabilities = test other capabilities

/-- The filter with its kinds replaced. -/
inductive KindFilter.Recased : KindFilter → KindFilter → Prop
  | one {kind other : String} : Text.SameUpToCase kind other → Recased (.one kind) (.one other)
  | many {kinds others : List String} :
    List.Forall₂ Text.SameUpToCase kinds others → Recased (.many kinds) (.many others)

/-- The column with the kinds of its filter replaced. -/
inductive CustomColumn.Recased (column : CustomColumn) : CustomColumn → Prop
  | mk {kind : Option KindFilter} :
    Option.Rel KindFilter.Recased column.kind kind → Recased column { column with kind }

/-- The configuration with the filters of its columns replaced. -/
inductive ColumnConfig.Recased (config : ColumnConfig) : ColumnConfig → Prop
  | mk {custom : Option (List CustomColumn)} :
    Option.Rel (List.Forall₂ CustomColumn.Recased) config.custom custom →
    Recased config { config with custom }

/-- The view with its kind replaced. -/
inductive CatalogView.Recased (view : CatalogView) : CatalogView → Prop
  | mk {kind : Option String} :
    Option.Rel Text.SameUpToCase view.kind kind → Recased view { view with kind }

/-! ## Lower-cased texts -/

section Lowered

variable {name other : Option String} {names others : List String}

theorem Text.map_asciiLower_eq (same : Option.Rel SameUpToCase name other) :
    name.map asciiLower = other.map asciiLower := by
  cases same with
  | none => rfl
  | some same => exact congrArg some (sameUpToCase_iff_asciiLower_eq.1 same)

theorem Text.map_asciiLower_eq_of_forall₂ (same : List.Forall₂ SameUpToCase names others) :
    names.map asciiLower = others.map asciiLower := by
  induction same with
  | nil => rfl
  | cons head _ ih =>
      rw [List.map_cons, List.map_cons, sameUpToCase_iff_asciiLower_eq.1 head, ih]

/-- Comparing with several names looks up the lower-cased text among the lower-cased names. -/
theorem Text.any_equalIgnoringCase_eq (names : List String) (name : String) :
    names.any (equalIgnoringCase · name) = (names.map asciiLower).contains (asciiLower name) := by
  have sides : (equalIgnoringCase · name) = (asciiLower name == ·) ∘ asciiLower :=
    funext fun _ => Bool.beq_comm
  rw [sides, List.contains_eq_any_beq, List.any_map]

theorem Atom.matchesAny_eq (actual : Option String) (expected : List String) :
    matchesAny actual expected =
      (actual.map Text.asciiLower).any (expected.map Text.asciiLower).contains := by
  cases actual with
  | none => rfl
  | some name => exact Text.any_equalIgnoringCase_eq expected name

theorem KindFilter.accepts_eq (filter : KindFilter) (kind : String) :
    filter.accepts kind =
      (filter.kinds.map Text.asciiLower).contains (Text.asciiLower kind) :=
  Text.any_equalIgnoringCase_eq filter.kinds kind

end Lowered

/-! ## Entities and conditions -/

section Blocks

variable {entity other : Entity} {capabilities : Option Capabilities}

theorem Doc.get?_insert_of_ne (members : Members Doc) {key sought : String} (ne : sought ≠ key)
    (value : Doc) :
    (object (members.insert key value)).get? sought = (object members).get? sought :=
  Members.get?_upsert_of_ne members _ ne

theorem Doc.get?_insert_self (members : Members Doc) (key : String) (value : Doc) :
    (object (members.insert key value)).get? key = some value :=
  Members.get?_upsert_self members key _

theorem Entity.Recased.kind?_eq (recased : entity.Recased other) :
    entity.kind?.map Text.asciiLower = other.kind?.map Text.asciiLower := by
  induction recased with
  | same => rfl
  | @kind members old new _ found same ih =>
      have before : (Entity.mk (.object members)).kind? = some old := kind?_eq_some_iff.2 found
      have after : (Entity.mk (.object (members.insert "kind" (.string new)))).kind? = some new :=
        kind?_eq_some_iff.2 (Doc.get?_insert_self members _ _)
      rw [ih, before, after]
      exact congrArg some (Text.sameUpToCase_iff_asciiLower_eq.1 same)
  | specType _ _ _ _ ih => rw [ih, kind?, kind?, Doc.get?_insert_of_ne _ (by decide)]

theorem Entity.Recased.specType?_eq (recased : entity.Recased other) :
    entity.specType?.map Text.asciiLower = other.specType?.map Text.asciiLower := by
  induction recased with
  | same => rfl
  | kind _ _ _ ih => rw [ih, specType?, specType?, Doc.get?_insert_of_ne _ (by decide)]
  | @specType members spec old new _ found foundType same ih =>
      have before : (Entity.mk (.object members)).specType? = some old :=
        specType?_eq_some_iff.2 ⟨_, found, foundType⟩
      have after : (Entity.mk (.object (members.insert "spec"
          (.object (spec.insert "type" (.string new)))))).specType? = some new :=
        specType?_eq_some_iff.2
          ⟨_, Doc.get?_insert_self members _ _, Doc.get?_insert_self spec _ _⟩
      rw [ih, before, after]
      exact congrArg some (Text.sameUpToCase_iff_asciiLower_eq.1 same)

/-- All other members of an entity stay what they are. -/
theorem Entity.Recased.get?_eq (recased : entity.Recased other) {key : String}
    (notKind : key ≠ "kind") (notSpec : key ≠ "spec") :
    entity.doc.get? key = other.doc.get? key := by
  induction recased with
  | same => rfl
  | kind _ _ _ ih => rw [ih, Doc.get?_insert_of_ne _ notKind]
  | specType _ _ _ _ ih => rw [ih, Doc.get?_insert_of_ne _ notSpec]

theorem Entity.Recased.isAnnotated_eq (recased : entity.Recased other) (key : String) :
    entity.isAnnotated key = other.isAnnotated key := by
  have metadata : entity.doc.get? "metadata" = other.doc.get? "metadata" :=
    recased.get?_eq (by decide) (by decide)
  rw [isAnnotated, isAnnotated, annotations?, annotations?, metadata]

theorem Condition.Recased.ofCondition_eq (entities : entity.Recased other)
    {condition otherCondition : Condition} (recased : condition.Recased otherCondition)
    (agrees : ∀ test, condition = .callable test →
      test entity capabilities = test other capabilities) :
    Atom.ofCondition condition entity capabilities =
      Atom.ofCondition otherCondition other capabilities := by
  cases recased with
  | @isKind kinds others same =>
      change Atom.matchesAny entity.kind? kinds = Atom.matchesAny other.kind? others
      rw [Atom.matchesAny_eq, Atom.matchesAny_eq, entities.kind?_eq,
        Text.map_asciiLower_eq_of_forall₂ same]
  | @isType types others same =>
      change Atom.matchesAny entity.specType? types = Atom.matchesAny other.specType? others
      rw [Atom.matchesAny_eq, Atom.matchesAny_eq, entities.specType?_eq,
        Text.map_asciiLower_eq_of_forall₂ same]
  | annotated => exact entities.isAnnotated_eq _
  | unknown => rfl
  | @callable test => exact agrees test rfl

theorem Condition.Recased.verdicts_eq (entities : entity.Recased other)
    {conditions others : List Condition} (each : List.Forall₂ Recased conditions others)
    (agrees : ∀ test, .callable test ∈ conditions →
      test entity capabilities = test other capabilities) :
    verdicts entity capabilities conditions = verdicts other capabilities others := by
  induction each with
  | nil => rfl
  | cons head _ ih =>
      have first := head.ofCondition_eq entities fun test own =>
        agrees test (List.mem_cons.2 (Or.inl own.symm))
      have rest := ih fun test mem => agrees test (List.mem_cons_of_mem _ mem)
      exact congrArg₂ List.cons first rest

/-- Only the list that decides matters, and there only what the conditions say. -/
theorem ConditionBlock.Recased.evaluate_eq (entities : entity.Recased other)
    {block otherBlock : Option ConditionBlock} (recased : Option.Rel Recased block otherBlock)
    (agrees : ∀ own ∈ block, own.CodeAgrees entity other capabilities) :
    (Predicate.compile block).evaluate entity capabilities =
      (Predicate.compile otherBlock).evaluate other capabilities := by
  cases recased with
  | none => rfl
  | @some block otherBlock lists =>
      have agrees : block.CodeAgrees entity other capabilities := agrees block rfl
      obtain ⟨allOf, anyOf, oneOf⟩ := block
      obtain ⟨otherAll, otherAny, otherOne⟩ := otherBlock
      obtain ⟨all, any, one⟩ := lists
      rw [Predicate.evaluate_compile_eq_decided, Predicate.evaluate_compile_eq_decided]
      cases all with
      | some each =>
          exact congrArg (·.all id) (Condition.Recased.verdicts_eq entities each agrees)
      | none =>
          cases any with
          | some each =>
              exact congrArg (·.any id) (Condition.Recased.verdicts_eq entities each agrees)
          | none =>
              cases one with
              | some each =>
                  exact congrArg (fun verdicts => (verdicts.filter id).length == 1)
                    (Condition.Recased.verdicts_eq entities each agrees)
              | none => rfl

/-- What is read from a document is not supplied as code. -/
theorem ConditionBlock.callable_not_mem_of_decode {doc : Doc} {block : ConditionBlock}
    (decoded : decode doc = some block) (test : Entity → Option Capabilities → Bool) :
    .callable test ∉ block.conditions := by
  intro mem
  have readable := readable_of_decode decoded _ mem
  cases readable

theorem ConditionBlock.mem_conditions_of_mem_deciding {block : ConditionBlock}
    {condition : Condition} (mem : condition ∈ block.deciding) : condition ∈ block.conditions := by
  obtain ⟨_ | allOf, _ | anyOf, oneOf⟩ := block <;> simp_all [deciding, conditions]

theorem ConditionBlock.codeAgrees_of_decode {doc : Doc} {block : ConditionBlock}
    (decoded : decode doc = some block) : block.CodeAgrees entity other capabilities :=
  fun test mem =>
    (callable_not_mem_of_decode decoded test (mem_conditions_of_mem_deciding mem)).elim

end Blocks

/-! ## Views and columns -/

section Columns

variable {view otherView : CatalogView}

theorem CatalogView.Recased.kindLower_eq (recased : view.Recased otherView) :
    view.kindLower = otherView.kindLower := by
  obtain ⟨same⟩ := recased
  exact Text.map_asciiLower_eq same

theorem Column.defaults_eq_of_recased (recased : view.Recased otherView) :
    defaults view = defaults otherView := by
  have lower := recased.kindLower_eq
  obtain ⟨-⟩ := recased
  rw [defaults, defaults, ofKind, ofKind, lower]

theorem KindFilter.Recased.accepts_eq {filter other : KindFilter} (recased : filter.Recased other)
    {kind otherKind : String} (same : Text.SameUpToCase kind otherKind) :
    filter.accepts kind = other.accepts otherKind := by
  have kinds : filter.kinds.map Text.asciiLower = other.kinds.map Text.asciiLower := by
    cases recased with
    | one own => exact congrArg (fun lower => [lower]) (Text.sameUpToCase_iff_asciiLower_eq.1 own)
    | many each => exact Text.map_asciiLower_eq_of_forall₂ each
  rw [KindFilter.accepts_eq, KindFilter.accepts_eq, kinds,
    Text.sameUpToCase_iff_asciiLower_eq.1 same]

/-- Only the empty text is the same as the empty one. -/
theorem Text.SameUpToCase.eq_empty_iff {a b : String} (same : SameUpToCase a b) :
    a = "" ↔ b = "" := by
  rw [← String.toList_eq_nil_iff, ← String.toList_eq_nil_iff, ← List.length_eq_zero_iff,
    ← List.length_eq_zero_iff, List.Forall₂.length_eq same]

/-- A filter is asked only about a view with a kind. -/
theorem CustomColumn.appliesTo_of_kind {column : CustomColumn} {filter : KindFilter} {kind : String}
    (own : column.kind = some filter) (nonempty : kind ≠ "") :
    column.appliesTo (some kind) = filter.accepts kind := by
  have given : (some kind).filter (· != "") = some kind := by simp [nonempty]
  rw [appliesTo, own, given]

theorem CustomColumn.Recased.appliesTo_eq {column other : CustomColumn}
    (recased : column.Recased other) {kind otherKind : Option String}
    (same : Option.Rel Text.SameUpToCase kind otherKind) :
    column.appliesTo kind = other.appliesTo otherKind := by
  obtain ⟨filters⟩ := recased
  obtain ⟨title, field, filter, defaultValue, width, sortable⟩ := column
  cases filters with
  | none => rfl
  | some filters =>
      cases same with
      | none => rfl
      | @some kind otherKind same =>
          by_cases empty : kind = ""
          · obtain rfl := same.eq_empty_iff.1 empty
            rw [empty]
            rfl
          · rw [appliesTo_of_kind rfl empty, appliesTo_of_kind rfl (mt same.eq_empty_iff.2 empty)]
            exact filters.accepts_eq same

/-- Columns are built without a look at their filters. -/
theorem CustomColumn.Recased.toColumn_eq {column other : CustomColumn}
    (recased : column.Recased other) : column.toColumn = other.toColumn := by
  obtain ⟨-⟩ := recased
  rfl

theorem CustomColumn.Recased.map_toColumn_eq {columns others : List CustomColumn}
    (each : List.Forall₂ Recased columns others) {kind otherKind : Option String}
    (same : Option.Rel Text.SameUpToCase kind otherKind) :
    (columns.filter (·.appliesTo kind)).map toColumn =
      (others.filter (·.appliesTo otherKind)).map toColumn := by
  induction each with
  | nil => rfl
  | cons head _ ih =>
      rw [List.filter_cons, List.filter_cons, head.appliesTo_eq same]
      split_ifs
      · rw [List.map_cons, List.map_cons, head.toColumn_eq, ih]
      · exact ih

theorem CatalogView.Recased.kind_rel (recased : view.Recased otherView) :
    Option.Rel Text.SameUpToCase view.kind otherView.kind := by
  obtain ⟨same⟩ := recased
  exact same

theorem Column.custom_eq_of_recased {config other : ColumnConfig} (configs : config.Recased other)
    (views : view.Recased otherView) : custom config view = custom other otherView := by
  obtain ⟨included, excluded, own⟩ := config
  obtain ⟨columns⟩ := configs
  rw [custom, custom]
  cases columns with
  | none => rfl
  | some each => exact CustomColumn.Recased.map_toColumn_eq each views.kind_rel

/-- Which built-in columns are shown is a matter of the ids, and of the kind of the view where the
default columns are taken. -/
theorem Column.configured_eq_of_recased {config other : ColumnConfig}
    (configs : config.Recased other) (views : view.Recased otherView) :
    configured config view = configured other otherView := by
  obtain ⟨-⟩ := configs
  rw [configured, configured, defaultsWithDate, defaultsWithDate, defaults_eq_of_recased views]

theorem ColumnConfig.Recased.compose_eq {config other : Option ColumnConfig}
    (configs : Option.Rel Recased config other) (views : view.Recased otherView) :
    Column.compose config view = Column.compose other otherView := by
  have completed : (config.getD .unset).Recased (other.getD .unset) := by
    cases configs with
    | none => exact .mk .none
    | some recased => exact recased
  rw [Column.compose_eq_general, Column.compose_eq_general,
    Column.configured_eq_of_recased completed views, Column.custom_eq_of_recased completed views]

end Columns

/-! ## Letter case is all that is overlooked -/

section Matching

variable {entity : Entity} {capabilities : Option Capabilities}

theorem Atom.ofCondition_isKind_iff {kinds : List String} :
    ofCondition (.isKind kinds) entity capabilities = true ↔
      ∃ kind, entity.kind? = some kind ∧ ∃ own ∈ kinds, Text.SameUpToCase own kind := by
  simp only [← Text.equalIgnoringCase_iff_sameUpToCase]
  exact matchesAny_iff

theorem Atom.ofCondition_isType_iff {types : List String} :
    ofCondition (.isType types) entity capabilities = true ↔
      ∃ type, entity.specType? = some type ∧ ∃ own ∈ types, Text.SameUpToCase own type := by
  simp only [← Text.equalIgnoringCase_iff_sameUpToCase]
  exact matchesAny_iff

theorem KindFilter.accepts_iff {filter : KindFilter} {kind : String} :
    filter.accepts kind = true ↔ ∃ own ∈ filter.kinds, Text.SameUpToCase own kind := by
  simp only [accepts, List.any_eq_true, Text.equalIgnoringCase_iff_sameUpToCase]

/-- The filter of a column is asked about every kind of a view but the empty one. -/
theorem ColumnConfig.showsCustom_iff_sameUpToCase {config : ColumnConfig} {index : Nat}
    {column : CustomColumn} {filter : KindFilter} {view : CatalogView} {kind : String}
    (place : (config.custom.getD [])[index]? = some column) (own : column.kind = some filter)
    (viewKind : view.kind = some kind) :
    config.ShowsCustom index column view ↔
      kind = "" ∨ ∃ own ∈ filter.kinds, Text.SameUpToCase own kind := by
  rw [showsCustom_iff place, viewKind]
  by_cases empty : kind = ""
  · have applies : column.appliesTo (some kind) = true := by
      rw [empty, CustomColumn.appliesTo, own]
      rfl
    exact iff_of_true applies (Or.inl empty)
  · rw [CustomColumn.appliesTo_of_kind own empty, KindFilter.accepts_iff, or_iff_right empty]

end Matching

/-- **Letter case does not matter, and nothing else is overlooked.** Kinds and types in other letter
case, in the entity, in the conditions of a block, in the view and in the filters of columns, change
neither what the block says, unless a condition supplied as code tells the entities apart, nor the
columns of the view. Blocks that are read from documents have no such condition. A condition and a
filter match no text but those that are the same up to the case of ASCII letters, and a column with
a filter is among the columns of the views of matching kinds and of the empty kind, for which no
filter counts. -/
theorem Entity.Recased.immaterial {entity other : Entity} {block otherBlock : Option ConditionBlock}
    {config otherConfig : Option ColumnConfig} {view otherView : CatalogView}
    (entities : entity.Recased other)
    (blocks : Option.Rel ConditionBlock.Recased block otherBlock)
    (configs : Option.Rel ColumnConfig.Recased config otherConfig)
    (views : view.Recased otherView) :
    (∀ capabilities, (∀ own ∈ block, own.CodeAgrees entity other capabilities) →
        (Predicate.compile block).evaluate entity capabilities =
          (Predicate.compile otherBlock).evaluate other capabilities) ∧
      (∀ doc read, ConditionBlock.decode doc = some read →
        (∀ test, .callable test ∉ read.conditions) ∧
          ∀ capabilities, read.CodeAgrees entity other capabilities) ∧
      Column.compose config view = Column.compose otherConfig otherView ∧
      (∀ kinds capabilities, Atom.ofCondition (.isKind kinds) entity capabilities = true ↔
        ∃ kind, entity.kind? = some kind ∧ ∃ own ∈ kinds, Text.SameUpToCase own kind) ∧
      (∀ types capabilities, Atom.ofCondition (.isType types) entity capabilities = true ↔
        ∃ type, entity.specType? = some type ∧ ∃ own ∈ types, Text.SameUpToCase own type) ∧
      (∀ (filter : KindFilter) kind, filter.accepts kind = true ↔
        ∃ own ∈ filter.kinds, Text.SameUpToCase own kind) ∧
      ∀ (columns : ColumnConfig) index column filter (shown : CatalogView) kind,
        (columns.custom.getD [])[index]? = some column → column.kind = some filter →
        shown.kind = some kind →
          (columns.ShowsCustom index column shown ↔
            kind = "" ∨ ∃ own ∈ filter.kinds, Text.SameUpToCase own kind) := by
  refine ⟨fun _ agrees => ConditionBlock.Recased.evaluate_eq entities blocks agrees,
    fun _ _ decoded => ⟨ConditionBlock.callable_not_mem_of_decode decoded,
      fun _ => ConditionBlock.codeAgrees_of_decode decoded⟩,
    ColumnConfig.Recased.compose_eq configs views, fun _ _ => Atom.ofCondition_isKind_iff,
    fun _ _ => Atom.ofCondition_isType_iff, fun _ _ => KindFilter.accepts_iff, ?_⟩
  intro columns index column filter shown kind place own shownKind
  exact ColumnConfig.showsCustom_iff_sameUpToCase place own shownKind

/-- A kind and a type in capitals, a block that asks for them in other letters and has a condition
supplied as code that looks at the name, and a column for a kind that the view writes in a third
way; a letter more is another type. -/
theorem Entity.Recased.immaterial_service :
    let spec (type : String) : Members Doc := [("type", .string type)]
    let members (kind type : String) : Members Doc :=
      [("kind", .string kind), ("spec", .object (spec type))]
    let entity : Entity := ⟨.object (members "Component" "service")⟩
    let other : Entity := ⟨.object (members "COMPONENT" "SERVICE")⟩
    let unnamed : Condition := .callable fun entity _ => entity.name?.isNone
    let block (kind type : String) : ConditionBlock :=
      ⟨some [.isKind ["api", kind], .isType [type], unnamed], none, none⟩
    let config (kind : String) : ColumnConfig :=
      ⟨none, none, some [⟨"Id", "metadata.uid", some (.many ["api", kind]), none, none, none⟩]⟩
    let view (kind : String) : CatalogView := ⟨some kind, none, false⟩
    entity.Recased other ∧
      (Predicate.compile (some (block "component" "Service"))).evaluate entity none =
        (Predicate.compile (some (block "Component" "SERVICE"))).evaluate other none ∧
      Column.compose (some (config "COMPONENT")) (view "component") =
        Column.compose (some (config "component")) (view "componenT") ∧
      ¬ Atom.ofCondition (.isType ["services"]) entity none = true := by
  intro spec members entity other unnamed block config view
  have capitals : Text.SameUpToCase "Component" "COMPONENT" := by decide
  have small : Text.SameUpToCase "component" "Component" := by decide
  have capitalType : Text.SameUpToCase "service" "SERVICE" := by decide
  have askedType : Text.SameUpToCase "Service" "SERVICE" := by decide
  have ofFilter : Text.SameUpToCase "COMPONENT" "component" := by decide
  have ofView : Text.SameUpToCase "component" "componenT" := by decide
  have kindFound : (members "Component" "service").get? "kind" = some (.string "Component") := rfl
  have specFound : (members "COMPONENT" "service").get? "spec" = some (.object (spec "service")) :=
    rfl
  have typeFound : (spec "service").get? "type" = some (.string "service") := rfl
  have renamed : entity.Recased ⟨.object (members "COMPONENT" "service")⟩ :=
    .kind .same kindFound capitals
  have entities : entity.Recased other := .specType renamed specFound typeFound capitalType
  have blocks : (block "component" "Service").Recased (block "Component" "SERVICE") :=
    ⟨.some (.cons (.isKind (.cons (.refl "api") (.cons small .nil)))
      (.cons (.isType (.cons askedType .nil)) (.cons .callable .nil))), .none, .none⟩
  have configs : (config "COMPONENT").Recased (config "component") :=
    .mk (.some (.cons (.mk (.some (.many (.cons (.refl "api") (.cons ofFilter .nil))))) .nil))
  have views : (view "component").Recased (view "componenT") := .mk (.some ofView)
  have agrees : ∀ own ∈ some (block "component" "Service"), own.CodeAgrees entity other none := by
    rintro _ ⟨⟩ test mem
    obtain rfl : test = fun entity _ => entity.name?.isNone := by
      simpa [block, ConditionBlock.deciding, unnamed] using mem
    rfl
  obtain ⟨evaluated, -, composed, -, types, -⟩ :=
    immaterial entities (.some blocks) (.some configs) views
  refine ⟨entities, evaluated none agrees, composed, fun matched => ?_⟩
  obtain ⟨type, own, asked, mem, same⟩ := (types ["services"] none).1 matched
  obtain rfl : "service" = type := Option.some.inj own
  obtain rfl := List.mem_singleton.1 mem
  exact absurd same (by decide)

/-- A condition supplied as code that compares the kind letter by letter holds of an entity and does
not hold of it in capitals; and a column for a kind is among the columns of a view whose kind is the
empty text, which is another text. -/
theorem Entity.Recased.told_apart :
    let members (kind : String) : Members Doc := [("kind", .string kind)]
    let entity : Entity := ⟨.object (members "Component")⟩
    let other : Entity := ⟨.object (members "COMPONENT")⟩
    let block : ConditionBlock :=
      ⟨some [.callable fun entity _ => entity.kind? == some "Component"], none, none⟩
    let column : CustomColumn := ⟨"Title", "metadata.name", some (.one "api"), none, none, none⟩
    let config : ColumnConfig := ⟨none, none, some [column]⟩
    let view : CatalogView := ⟨some "", none, false⟩
    (entity.Recased other ∧ block.Recased block ∧
        (Predicate.compile (some block)).evaluate entity none = true ∧
        (Predicate.compile (some block)).evaluate other none = false) ∧
      ¬ Text.SameUpToCase "api" "" ∧ column.appliesTo view.kind = true ∧
      config.ShowsCustom 0 column view := by
  intro members entity other block column config view
  have found : (members "Component").get? "kind" = some (.string "Component") := rfl
  have capitals : Text.SameUpToCase "Component" "COMPONENT" := by decide
  have entities : entity.Recased other := .kind .same found capitals
  have blocks : block.Recased block := ⟨.some (.cons .callable .nil), .none, .none⟩
  have applies : column.appliesTo view.kind = true := rfl
  exact ⟨⟨entities, blocks, by decide, by decide⟩, by decide, applies,
    (ColumnConfig.showsCustom_iff rfl).2 applies⟩

end PortalConfig
