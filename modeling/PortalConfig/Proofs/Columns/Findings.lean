import PortalConfig.Lint.Columns
import PortalConfig.Proofs.Columns.Composition

/-!
# Findings and the columns of a view

Linting holds ids against the list of column ids, and kinds in small letters against the list of
kinds that a catalog knows. Composing columns reads neither list: it looks every id up, and it
compares the kinds of a column with that of the view up to letter case. The two agree
(`Lint.columns_agree_with_compose`). The reported ids to include are those that bring no column, the
reported ids to exclude exclude none, and the reported kinds of a column are those that bring it
into no view of a known kind.
-/

namespace PortalConfig

variable {config : ColumnConfig}

/-! ## What is reported -/

/-- Whether the finding is about an id to include. -/
def ColumnFinding.isOnIncluded : ColumnFinding → Bool
  | unknownId .included _ => true
  | _ => false

theorem Lint.mem_columnList_iff {own list : ColumnList} {id : String} :
    .unknownId list id ∈ columnList config own ↔
      list = own ∧ id ∈ list.ids config ∧ id ∉ columnIds := by
  simp only [columnList, List.mem_map, List.mem_filter, decide_eq_true_eq,
    ColumnFinding.unknownId.injEq]
  constructor
  · rintro ⟨_, reported, rfl, rfl⟩
    exact ⟨rfl, reported⟩
  · rintro ⟨rfl, reported⟩
    exact ⟨id, reported, rfl, rfl⟩

theorem Lint.unknownId_mem_columns_iff {list : ColumnList} {id : String} :
    .unknownId list id ∈ columns config ↔ id ∈ list.ids config ∧ id ∉ columnIds := by
  have noKind : .unknownId list id ∉ (config.custom.getD []).zipIdx.flatMap fun entry =>
      (unknownKinds entry.1).map (ColumnFinding.unknownKind entry.2) := by
    intro mem
    obtain ⟨_, -, mem⟩ := List.mem_flatMap.1 mem
    obtain ⟨_, -, ⟨⟩⟩ := List.mem_map.1 mem
  unfold columns
  rw [List.mem_append, List.mem_append, mem_columnList_iff, mem_columnList_iff]
  cases list <;> simp [noKind]

theorem Lint.mem_unknownKinds_iff {column : CustomColumn} {filter : KindFilter} {kind : String}
    (own : column.kind = some filter) :
    kind ∈ unknownKinds column ↔ kind ∈ filter.kinds ∧ Text.asciiLower kind ∉ knownKinds := by
  unfold unknownKinds
  rw [own]
  simp only [List.mem_filter, decide_eq_true_eq]

theorem Lint.unknownKind_mem_columns_iff {index : Nat} {column : CustomColumn} {kind : String}
    (place : (config.custom.getD [])[index]? = some column) :
    .unknownKind index kind ∈ columns config ↔ kind ∈ unknownKinds column := by
  have noId : ∀ list, .unknownKind index kind ∉ columnList config list := by
    intro list mem
    obtain ⟨_, -, ⟨⟩⟩ := List.mem_map.1 mem
  unfold columns
  rw [List.mem_append, List.mem_append, or_iff_right (not_or_intro (noId _) (noId _)),
    List.mem_flatMap]
  constructor
  · rintro ⟨⟨other, position⟩, mem, reported⟩
    obtain ⟨_, unknown, same⟩ := List.mem_map.1 reported
    cases same
    obtain rfl : other = column :=
      Option.some.inj ((List.mem_zipIdx_iff_getElem?.1 mem).symm.trans place)
    exact unknown
  · intro unknown
    exact ⟨(column, index), List.mem_zipIdx_iff_getElem?.2 place,
      List.mem_map.2 ⟨kind, unknown, rfl⟩⟩

/-- The findings about ids to include are those of their list. -/
theorem Lint.filter_isOnIncluded_columns :
    (columns config).filter (·.isOnIncluded) = columnList config .included := by
  have all : ∀ finding ∈ columnList config .included, finding.isOnIncluded = true := by
    intro finding mem
    obtain ⟨_, -, rfl⟩ := List.mem_map.1 mem
    rfl
  have noExcluded : ∀ finding ∈ columnList config .excluded, ¬ finding.isOnIncluded = true := by
    intro finding mem
    obtain ⟨_, -, rfl⟩ := List.mem_map.1 mem
    exact Bool.false_ne_true
  have noKind : ∀ finding ∈ (config.custom.getD []).zipIdx.flatMap fun entry =>
      (unknownKinds entry.1).map (ColumnFinding.unknownKind entry.2),
      ¬ finding.isOnIncluded = true := by
    intro finding mem
    obtain ⟨_, -, mem⟩ := List.mem_flatMap.1 mem
    obtain ⟨_, -, rfl⟩ := List.mem_map.1 mem
    exact Bool.false_ne_true
  unfold columns
  rw [List.filter_append, List.filter_append, List.filter_eq_self.2 all,
    List.filter_eq_nil_iff.2 noExcluded, List.filter_eq_nil_iff.2 noKind, List.append_nil,
    List.append_nil]

/-! ## Ids -/

theorem Column.ofId?_eq_none_iff {id : String} : ofId? id = none ↔ id ∉ columnIds := by
  rw [← exists_hasId_iff, Option.eq_none_iff_forall_ne_some, not_exists]
  exact forall_congr' fun column => not_congr ofId?_eq_some_iff

/-- The columns that ids bring have the known ones of them for their ids. -/
theorem Column.map_id_filterMap_ofId? (ids : List String) :
    (ids.filterMap ofId?).map (·.id) = (ids.filter (· ∈ columnIds)).map some := by
  induction ids with
  | nil => rfl
  | cons id rest ih =>
      cases found : ofId? id with
      | none =>
          have unknown : id ∉ columnIds := ofId?_eq_none_iff.1 found
          rw [List.filterMap_cons_none found, List.filter_cons_of_neg (by simpa using unknown), ih]
      | some column =>
          have own : HasId id column := ofId?_eq_some_iff.1 found
          have known : id ∈ columnIds := (exists_hasId_iff id).1 ⟨column, own⟩
          rw [List.filterMap_cons_some found, List.filter_cons_of_pos (by simpa using known),
            List.map_cons, List.map_cons, own.2, ih]

/-- Every id either brings a column or is unknown. -/
theorem Column.length_filterMap_ofId?_add (ids : List String) :
    (ids.filterMap ofId?).length + (ids.filter (· ∉ columnIds)).length = ids.length := by
  have brought : (ids.filterMap ofId?).length = (ids.filter (· ∈ columnIds)).length := by
    rw [← List.length_map (·.id), map_id_filterMap_ofId?, List.length_map]
  have split := List.length_eq_length_filter_add (l := ids) fun id => decide (id ∈ columnIds)
  simp only [brought, split, decide_not]

/-- The columns of a view without configuration have ids that can be excluded, or none. -/
theorem Column.id_mem_columnIds {view : CatalogView} {column : Column} {id : String}
    (mem : column ∈ defaultsWithDate view) (own : column.id = some id) : id ∈ columnIds := by
  have ids : ∀ column ∈ ofKind view, ∀ id, column.id = some id → id ∈ columnIds := by
    unfold ofKind
    dsimp only
    split_ifs <;> simp [owner, specType, targets, system, namespaceName, lifecycle, basic,
      columnIds]
  simp only [defaultsWithDate, defaults, List.cons_append, List.mem_cons, List.mem_append,
    List.not_mem_nil, or_false] at mem
  rcases mem with rfl | (shown | rfl | rfl) | rfl
  · obtain rfl := Option.some.inj own
    decide
  · exact ids column shown id own
  · obtain rfl := Option.some.inj own
    decide
  · obtain rfl := Option.some.inj own
    decide
  · obtain rfl := Option.some.inj own
    decide

/-- The configuration without the reported ids to exclude. -/
def ColumnConfig.withoutReported (config : ColumnConfig) : ColumnConfig :=
  { config with
    excluded := config.excluded.map fun ids =>
      ids.filter fun id => .unknownId .excluded id ∉ Lint.columns config }

/-- Excluding an id that is reported changes no column. -/
theorem Column.configured_withoutReported (config : ColumnConfig) (view : CatalogView) :
    configured config.withoutReported view = configured config view := by
  have fewer : config.withoutReported.excluded.getD [] =
      (config.excluded.getD []).filter fun id => .unknownId .excluded id ∉ Lint.columns config := by
    rw [ColumnConfig.withoutReported]
    cases config.excluded <;> rfl
  have same : ∀ column ∈ defaultsWithDate view,
      (!(column.id.any (config.withoutReported.excluded.getD []).contains)) =
        !(column.id.any (config.excluded.getD []).contains) := by
    intro column mem
    cases own : column.id with
    | none => rfl
    | some id =>
        have known : id ∈ columnIds := id_mem_columnIds mem own
        have unreported : .unknownId .excluded id ∉ Lint.columns config :=
          fun reported => (Lint.unknownId_mem_columns_iff.1 reported).2 known
        rw [fewer, Option.any_some, Option.any_some, List.contains_eq_mem, List.contains_eq_mem]
        simp only [List.mem_filter, unreported, not_false_eq_true, decide_true, and_true]
  unfold configured
  rw [List.filter_congr same]
  rfl

/-! ## Kinds -/

/-- In a view of a known kind a column shows exactly if one of its kinds that are not reported is
that kind. -/
theorem CustomColumn.appliesTo_iff_unreported {column : CustomColumn} {filter : KindFilter}
    {kind : String} (own : column.kind = some filter) (known : Text.asciiLower kind ∈ knownKinds) :
    column.appliesTo (some kind) = true ↔
      ∃ name ∈ filter.kinds, name ∉ Lint.unknownKinds column ∧
        Text.equalIgnoringCase name kind = true := by
  rw [appliesTo_iff]
  constructor
  · intro shows
    cases shows with
    | unfiltered none => cases own.symm.trans none
    | emptyKind => exact absurd known (by decide)
    | @ofKind other name kind found mem same =>
        obtain rfl := Option.some.inj (own.symm.trans found)
        refine ⟨name, mem, fun reported => ?_, same⟩
        have lower := (Text.equalIgnoringCase_iff name kind).1 same
        exact ((Lint.mem_unknownKinds_iff own).1 reported).2 (lower ▸ known)
  · rintro ⟨name, mem, -, same⟩
    exact .ofKind own mem same

/-! ## Agreement -/

/-- **Findings about columns say what composing them leaves out.** The reported ids to include are
those without a column, so that the built-in columns of every view are those of the other ids, one
for each; without the reported ids to exclude every view has the same columns; and a column of the
user's own is among the columns of the views of its kinds that are not reported, and changes those
of no view of a known kind if all its kinds are. -/
theorem Lint.columns_agree_with_compose (config : ColumnConfig) :
    (∀ id ∈ config.included.getD [],
        .unknownId .included id ∈ columns config ↔ Column.ofId? id = none) ∧
      (config.included.getD [] ≠ [] → ∀ view, ∃ builtIn,
        Column.compose (some config) view = builtIn ++ Column.custom config view ∧
          builtIn.map (·.id) = ((config.included.getD []).filter fun id =>
            .unknownId .included id ∉ columns config).map some ∧
          builtIn.length + ((columns config).filter (·.isOnIncluded)).length =
            (config.included.getD []).length) ∧
      (∀ view, Column.compose (some config.withoutReported) view =
        Column.compose (some config) view) ∧
      ∀ index column filter, (config.custom.getD [])[index]? = some column →
        column.kind = some filter →
          (∀ kind ∈ filter.kinds, .unknownKind index kind ∉ columns config →
            Text.asciiLower kind ∈ knownKinds ∧
              ∀ view shown, view.kind = some shown → Text.equalIgnoringCase kind shown = true →
                config.ShowsCustom index column view) ∧
          ((∀ kind ∈ filter.kinds, .unknownKind index kind ∈ columns config) →
            ∀ view shown, view.kind = some shown → Text.asciiLower shown ∈ knownKinds →
              Column.compose (some (config.withoutCustom index)) view =
                Column.compose (some config) view) := by
  refine ⟨?skipped, ?included, ?excluded, ?kinds⟩
  case skipped =>
    intro id mem
    rw [unknownId_mem_columns_iff, Column.ofId?_eq_none_iff]
    exact and_iff_right mem
  case included =>
    intro nonempty view
    have builtIn : Column.configured config view =
        (config.included.getD []).filterMap Column.ofId? := by
      unfold Column.configured
      cases ids : config.included.getD [] with
      | nil => exact (nonempty ids).elim
      | cons first rest => rfl
    have unreported : ((config.included.getD []).filter fun id =>
        .unknownId .included id ∉ columns config) =
        (config.included.getD []).filter (· ∈ columnIds) := by
      refine List.filter_congr fun id mem => ?_
      rw [decide_eq_decide, unknownId_mem_columns_iff, not_and, not_not]
      exact forall_prop_of_true mem
    refine ⟨(config.included.getD []).filterMap Column.ofId?, ?_, ?_, ?_⟩
    · rw [Column.compose_eq_general, ← builtIn]
      rfl
    · rw [Column.map_id_filterMap_ofId?, unreported]
    · rw [filter_isOnIncluded_columns, columnList, List.length_map]
      exact Column.length_filterMap_ofId?_add (config.included.getD [])
  case excluded =>
    intro view
    rw [Column.compose_eq_general, Column.compose_eq_general]
    exact congrArg (· ++ _) (Column.configured_withoutReported config view)
  case kinds =>
    intro index column filter place own
    refine ⟨?unreported, ?allReported⟩
    case unreported =>
      intro kind mem silent
      rw [unknownKind_mem_columns_iff place, mem_unknownKinds_iff own, not_and, not_not] at silent
      refine ⟨silent mem, fun view shown viewKind same => ?_⟩
      rw [ColumnConfig.showsCustom_iff place, CustomColumn.appliesTo_iff, viewKind]
      exact .ofKind own mem same
    case allReported =>
      intro reported view shown viewKind known
      refine Column.compose_withoutCustom_eq place ?_
      rw [viewKind, CustomColumn.appliesTo_iff_unreported own known]
      rintro ⟨name, mem, silent, -⟩
      exact silent ((unknownKind_mem_columns_iff place).1 (reported name mem))

/-- Ids to include and to exclude that no column has, one of them twice, and columns for known and
unknown kinds in several spellings. -/
def ColumnConfig.sampleUnknown : ColumnConfig where
  included := some ["tags", "nope", "createdAt", "nope", "tags"]
  excluded := some ["owner", "targets"]
  custom := some
    [⟨"Tier", "metadata.tier", some (.many ["Apis", "API"]), none, none, none⟩,
      ⟨"Cost", "metadata.cost", some (.one "Servise"), none, none, none⟩]

theorem Lint.columns_agree_with_compose_sampleUnknown :
    columns .sampleUnknown = [.unknownId .included "nope", .unknownId .included "nope",
        .unknownId .excluded "targets", .unknownKind 0 "Apis", .unknownKind 1 "Servise"] ∧
      (∀ view, ∃ builtIn,
        Column.compose (some .sampleUnknown) view =
            builtIn ++ Column.custom .sampleUnknown view ∧
          builtIn.map (·.id) = [some "tags", some "createdAt", some "tags"]) ∧
      (∀ view, view.kind = some "Api" → ColumnConfig.sampleUnknown.ShowsCustom 0
        ⟨"Tier", "metadata.tier", some (.many ["Apis", "API"]), none, none, none⟩ view) ∧
      ∀ view, view.kind = some "Component" →
        Column.compose (some (ColumnConfig.sampleUnknown.withoutCustom 1)) view =
          Column.compose (some .sampleUnknown) view := by
  have findings : columns .sampleUnknown = [.unknownId .included "nope",
      .unknownId .included "nope", .unknownId .excluded "targets", .unknownKind 0 "Apis",
      .unknownKind 1 "Servise"] := by decide +kernel
  obtain ⟨-, included, -, kinds⟩ := columns_agree_with_compose .sampleUnknown
  refine ⟨findings, fun view => ?_, fun view api => ?_, fun view component => ?_⟩
  · obtain ⟨builtIn, composed, ids, -⟩ := included (List.cons_ne_nil _ _) view
    refine ⟨builtIn, composed, ids.trans ?_⟩
    rw [findings]
    decide
  · refine ((kinds 0 _ _ rfl rfl).1 "API" (by decide) ?_).2 view "Api" api (by decide +kernel)
    rw [findings]
    decide
  · refine (kinds 1 _ _ rfl rfl).2 ?_ view "Component" component (by decide +kernel)
    rw [findings]
    decide

end PortalConfig
