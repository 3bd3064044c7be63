import Mathlib.Data.List.Nodup
import PortalConfig.Catalog.Composer

/-!
# Which columns a view shows

`Column.Composed` says entry by entry which columns a view shows: the built-in ones that the lists
of ids leave it, then those of the user's own that are for its kind. Composing columns gives exactly
these (`Column.compose_iff_composed`). A list that is left out counts as an empty one there, and no
configuration as one that leaves out everything, so the early answer for the latter is the general
one. What a single column of the user's own contributes is the difference to the columns without it
(`ColumnConfig.showsCustom_iff`).
-/

namespace PortalConfig

/-! ## Selections -/

/-- What is picked for the items, in their order: one thing for every item that something is picked
for, and nothing for the others. -/
inductive Selection {α β : Type} (picked : α → β → Prop) : List α → List β → Prop
  | nil : Selection picked [] []
  | taken {item : α} {pick : β} {items : List α} {picks : List β} :
    picked item pick → Selection picked items picks →
    Selection picked (item :: items) (pick :: picks)
  | skipped {item : α} {items : List α} {picks : List β} :
    (∀ pick, ¬ picked item pick) → Selection picked items picks →
    Selection picked (item :: items) picks

section Selections

variable {α β : Type} {picked : α → β → Prop} {items : List α} {picks : List β}

theorem Selection.iff_eq_filterMap {pick? : α → Option β}
    (exact : ∀ item pick, pick? item = some pick ↔ picked item pick) :
    Selection picked items picks ↔ items.filterMap pick? = picks := by
  constructor
  · intro selected
    induction selected with
    | nil => rfl
    | taken found _ ih => rw [List.filterMap_cons_some ((exact _ _).2 found), ih]
    | @skipped item _ _ nothing _ ih =>
        have missing : pick? item = none := by
          rw [Option.eq_none_iff_forall_ne_some]
          exact fun pick found => nothing pick ((exact item pick).1 found)
        rw [List.filterMap_cons_none missing, ih]
  · rintro rfl
    induction items with
    | nil => exact .nil
    | cons item rest ih =>
        cases found : pick? item with
        | none =>
            rw [List.filterMap_cons_none found]
            refine .skipped (fun pick holds => ?_) ih
            rw [(exact item pick).2 holds] at found
            cases found
        | some pick =>
            rw [List.filterMap_cons_some found]
            exact .taken ((exact item pick).1 found) ih

/-- Keeping some of the items and turning each into something is a selection. -/
theorem Selection.iff_eq_map_filter {keep : α → Bool} {turn : α → β}
    (exact : ∀ item pick, picked item pick ↔ keep item = true ∧ pick = turn item) :
    Selection picked items picks ↔ (items.filter keep).map turn = picks := by
  have single : ∀ item pick, (if keep item = true then some (turn item) else none) = some pick ↔
      picked item pick := by
    intro item pick
    rw [exact, Option.ite_none_right_eq_some, Option.some.injEq, eq_comm (a := pick)]
  rw [iff_eq_filterMap single, ← List.filterMap_eq_map, List.filterMap_filter]
  rfl

end Selections

/-! ## What a view shows -/

/-- The columns that ids stand for. -/
def Column.named : List Column :=
  [createdAt, name, owner, specType, lifecycle, description, tags, namespaceName, system]

/-- The column is the one with this id. -/
def Column.HasId (id : String) (column : Column) : Prop := column ∈ named ∧ column.id = some id

/-- The columns that the ids to include and to exclude leave a view. Ids to include decide alone,
and only a column with an id can be excluded. -/
inductive Column.BuiltIn (view : CatalogView) :
    (included excluded : List String) → List Column → Prop
  | included {ids excluded : List String} {columns : List Column} :
    ids ≠ [] → Selection HasId ids columns → BuiltIn view ids excluded columns
  | remaining {excluded : List String} {columns : List Column} :
    Selection (fun column shown => (∀ id ∈ excluded, column.id ≠ some id) ∧ shown = column)
      (defaults view ++ [createdAt]) columns →
    BuiltIn view [] excluded columns

/-- The kinds of views in which a column of the user's own shows: any kind if the column is for no
kind in particular, none, the empty one, and the kinds that it is for, up to the case of ASCII
letters. -/
inductive CustomColumn.ShowsIn (column : CustomColumn) : Option String → Prop
  | unfiltered {kind : Option String} : column.kind = none → ShowsIn column kind
  | unrestricted : ShowsIn column none
  | emptyKind : ShowsIn column (some "")
  | ofKind {filter : KindFilter} {own kind : String} :
    column.kind = some filter → own ∈ filter.kinds → Text.equalIgnoringCase own kind = true →
    ShowsIn column (some kind)

/-- The columns of a view: the built-in ones, then the user's own. -/
def Column.Composed (config : ColumnConfig) (view : CatalogView) (columns : List Column) : Prop :=
  ∃ builtIn own,
    BuiltIn view (config.included.getD []) (config.excluded.getD []) builtIn ∧
      Selection (fun entry column => entry.ShowsIn view.kind ∧ column = entry.toColumn)
        (config.custom.getD []) own ∧
      columns = builtIn ++ own

/-- The configuration that leaves out everything. -/
def ColumnConfig.unset : ColumnConfig := ⟨none, none, none⟩

/-- The configuration without its empty lists. -/
def ColumnConfig.withoutEmpty (config : ColumnConfig) : ColumnConfig where
  included := config.included.filter (!·.isEmpty)
  excluded := config.excluded.filter (!·.isEmpty)
  custom := config.custom.filter (!·.isEmpty)

/-! ## Ids -/

theorem Column.nodup_ids_named : (named.map (·.id)).Nodup := by decide

/-- The ids of columns are those that a configuration may name. -/
theorem Column.exists_hasId_iff (id : String) : (∃ column, HasId id column) ↔ id ∈ columnIds := by
  have known : some id ∈ named.map (·.id) ↔ id ∈ columnIds := by
    simp only [named, columnIds, List.map_cons, List.map_nil, List.mem_cons, List.not_mem_nil,
      or_false, createdAt, name, owner, specType, lifecycle, description, tags, namespaceName,
      system, basic, createdAtId, Option.some.injEq]
    tauto
  rw [← known, List.mem_map]
  rfl

theorem Column.HasId.unique {id : String} {column other : Column} (first : HasId id column)
    (second : HasId id other) : column = other :=
  List.inj_on_of_nodup_map nodup_ids_named first.1 second.1 (first.2.trans second.2.symm)

theorem Column.ofId?_eq_some_iff {id : String} {column : Column} :
    ofId? id = some column ↔ HasId id column := by
  constructor
  · intro found
    unfold ofId? builtin? at found
    split_ifs at found with same same same same same same same same same
    all_goals
      subst same
      obtain rfl := Option.some.inj found
      exact ⟨by simp [named], rfl⟩
  · rintro ⟨mem, own⟩
    simp only [named, List.mem_cons, List.not_mem_nil, or_false] at mem
    rcases mem with rfl | rfl | rfl | rfl | rfl | rfl | rfl | rfl | rfl
    all_goals
      obtain rfl := Option.some.inj own
      rfl

/-! ## Columns of the user's own -/

theorem CustomColumn.appliesTo_iff {column : CustomColumn} {kind : Option String} :
    column.appliesTo kind = true ↔ column.ShowsIn kind := by
  unfold appliesTo
  cases own : column.kind with
  | none => exact ⟨fun _ => .unfiltered own, fun _ => rfl⟩
  | some filter =>
      cases kind with
      | none => exact ⟨fun _ => .unrestricted, fun _ => rfl⟩
      | some kind =>
          by_cases empty : kind = ""
          · subst empty
            exact ⟨fun _ => .emptyKind, fun _ => rfl⟩
          · have given : (some kind).filter (· != "") = some kind := by simp [empty]
            rw [given]
            change filter.accepts kind = true ↔ _
            rw [KindFilter.accepts, List.any_eq_true]
            constructor
            · rintro ⟨name, mem, same⟩
              exact .ofKind own mem same
            · intro shows
              cases shows with
              | unfiltered none => cases own.symm.trans none
              | emptyKind => exact (empty rfl).elim
              | ofKind found mem same =>
                  obtain rfl := Option.some.inj (own.symm.trans found)
                  exact ⟨_, mem, same⟩

/-! ## Composition -/

theorem ColumnConfig.eq_unset_of_isUnset {config : ColumnConfig} (none : config.isUnset = true) :
    config = unset := by
  rcases config with ⟨included, excluded, custom⟩
  simp only [isUnset, Bool.and_eq_true, Option.isNone_iff_eq_none] at none
  rcases none with ⟨⟨rfl, rfl⟩, rfl⟩
  rfl

theorem ColumnConfig.getD_filter_not_isEmpty {α : Type} (list : Option (List α)) :
    (list.filter (!·.isEmpty)).getD [] = list.getD [] := by
  rcases list with _ | _ | ⟨first, rest⟩ <;> rfl

section Composition

variable {config : ColumnConfig} {view : CatalogView} {columns : List Column}

theorem Column.remaining_iff {excluded : List String} :
    (defaultsWithDate view).filter (fun column => !(column.id.any excluded.contains)) = columns ↔
      Selection (fun column shown => (∀ id ∈ excluded, column.id ≠ some id) ∧ shown = column)
        (defaults view ++ [createdAt]) columns := by
  have kept : ∀ column : Column, (!(column.id.any excluded.contains)) = true ↔
      ∀ id ∈ excluded, column.id ≠ some id := by
    intro column
    cases column.id with
    | none => simp
    | some own =>
        simp only [Option.any_some, Bool.not_eq_true', List.contains_eq_mem,
          decide_eq_false_iff_not, ne_eq, Option.some.injEq]
        constructor
        · rintro absent id mem rfl
          exact absent mem
        · intro different mem
          exact different own mem rfl
  have turned : Selection (fun column shown => (∀ id ∈ excluded, column.id ≠ some id) ∧
        shown = column) (defaults view ++ [createdAt]) columns ↔
      ((defaults view ++ [createdAt]).filter fun column =>
        !(column.id.any excluded.contains)).map (fun column => column) = columns :=
    Selection.iff_eq_map_filter fun column _ => and_congr_left' (kept column).symm
  rw [turned, List.map_id']
  rfl

theorem Column.configured_iff_builtIn :
    configured config view = columns ↔
      BuiltIn view (config.included.getD []) (config.excluded.getD []) columns := by
  unfold configured
  cases config.included.getD [] with
  | nil =>
      refine remaining_iff.trans ?_
      constructor
      · exact .remaining
      · intro shown
        cases shown with
        | included nonempty => exact (nonempty rfl).elim
        | remaining remaining => exact remaining
  | cons first rest =>
      change (first :: rest).filterMap ofId? = columns ↔ _
      rw [← Selection.iff_eq_filterMap fun _ _ => ofId?_eq_some_iff]
      constructor
      · exact .included (List.cons_ne_nil first rest)
      · intro shown
        cases shown with
        | included _ selected => exact selected

theorem Column.custom_iff_selection :
    custom config view = columns ↔
      Selection (fun entry column => entry.ShowsIn view.kind ∧ column = entry.toColumn)
        (config.custom.getD []) columns := by
  unfold custom
  rw [Selection.iff_eq_map_filter fun entry column => by rw [CustomColumn.appliesTo_iff]]

/-- The early answer for a configuration that sets nothing is the general one. -/
theorem Column.compose_eq_general (config : Option ColumnConfig) (view : CatalogView) :
    compose config view =
      configured (config.getD .unset) view ++ custom (config.getD .unset) view := by
  have early : defaultsWithDate view = configured .unset view ++ custom .unset view := by
    have all : (defaultsWithDate view).filter (fun column => !(column.id.any [].contains)) =
        defaultsWithDate view := by
      refine List.filter_eq_self.2 fun column _ => ?_
      cases column.id <;> rfl
    exact all.symm.trans (List.append_nil _).symm
  cases config with
  | none => exact early
  | some config =>
      unfold compose
      by_cases unset : config.isUnset = true
      · obtain rfl := config.eq_unset_of_isUnset unset
        exact early
      · rw [Option.filter_some, if_pos (by simpa using unset)]
        rfl

theorem Column.compose_withoutEmpty (config : Option ColumnConfig) (view : CatalogView) :
    compose (config.map ColumnConfig.withoutEmpty) view = compose config view := by
  rw [compose_eq_general, compose_eq_general]
  cases config with
  | none => rfl
  | some config =>
      have sameBuiltIn : configured config.withoutEmpty view = configured config view := by
        simp only [configured, ColumnConfig.withoutEmpty, ColumnConfig.getD_filter_not_isEmpty]
      have sameOwn : custom config.withoutEmpty view = custom config view := by
        simp only [custom, ColumnConfig.withoutEmpty, ColumnConfig.getD_filter_not_isEmpty]
      exact congrArg₂ (· ++ ·) sameBuiltIn sameOwn

/-- **The columns of a view.** Composing them gives exactly the columns that the lists of the
configuration say, for the ids that a configuration may name; the early answer is the general one,
and an empty list counts like one that is left out. -/
theorem Column.compose_iff_composed (config : Option ColumnConfig) (view : CatalogView) :
    (∀ columns, compose config view = columns ↔ Composed (config.getD .unset) view columns) ∧
      (∀ id, (∃ column, HasId id column) ↔ id ∈ columnIds) ∧
      compose config view =
        configured (config.getD .unset) view ++ custom (config.getD .unset) view ∧
      compose (config.map ColumnConfig.withoutEmpty) view = compose config view := by
  have exactly : ∀ columns, compose config view = columns ↔
      Composed (config.getD .unset) view columns := by
    intro columns
    rw [compose_eq_general]
    constructor
    · rintro rfl
      exact ⟨_, _, configured_iff_builtIn.1 rfl, custom_iff_selection.1 rfl, rfl⟩
    · rintro ⟨builtIn, own, shown, selected, rfl⟩
      rw [configured_iff_builtIn.2 shown, custom_iff_selection.2 selected]
  exact ⟨exactly, exists_hasId_iff, compose_eq_general config view,
    compose_withoutEmpty config view⟩

example : (Column.compose (some ⟨some ["tags", "nope", "tags"], some ["tags"], some []⟩)
    ⟨none, none, false⟩).map (·.title) = ["Tags", "Tags"] := rfl

end Composition

/-! ## One column of the user's own -/

/-- The configuration without the column of the user's own at an index. -/
def ColumnConfig.withoutCustom (config : ColumnConfig) (index : Nat) : ColumnConfig :=
  { config with custom := config.custom.map (·.eraseIdx index) }

/-- The column of the user's own at an index is among the columns of a view: it stands between the
columns that the view has without it. -/
def ColumnConfig.ShowsCustom (config : ColumnConfig) (index : Nat) (column : CustomColumn)
    (view : CatalogView) : Prop :=
  ∃ front back, Column.compose (some config) view = front ++ column.toColumn :: back ∧
    Column.compose (some (config.withoutCustom index)) view = front ++ back

section OneColumn

variable {config : ColumnConfig} {index : Nat} {column : CustomColumn} {view : CatalogView}

/-- A column of the user's own contributes itself to the views that it applies to, and nothing to
the others. -/
theorem Column.compose_withoutCustom (place : (config.custom.getD [])[index]? = some column)
    (view : CatalogView) :
    ∃ front back,
      compose (some config) view =
        front ++ (if column.appliesTo view.kind then [column.toColumn] else []) ++ back ∧
      compose (some (config.withoutCustom index)) view = front ++ back := by
  obtain ⟨inside, own⟩ := List.getElem?_eq_some_iff.1 place
  obtain ⟨before, after, whole, others⟩ : ∃ before after,
      config.custom.getD [] = before ++ column :: after ∧
        (config.custom.getD []).eraseIdx index = before ++ after := by
    refine ⟨_, _, ?_, List.eraseIdx_eq_take_drop_succ _ index⟩
    rw [← own, ← List.drop_eq_getElem_cons inside, List.take_append_drop]
  have erased : (config.withoutCustom index).custom.getD [] = before ++ after := by
    rw [← others, ColumnConfig.withoutCustom]
    cases config.custom <;> rfl
  refine ⟨configured config view ++
      (before.filter (·.appliesTo view.kind)).map CustomColumn.toColumn,
    (after.filter (·.appliesTo view.kind)).map CustomColumn.toColumn, ?_, ?_⟩
  · rw [compose_eq_general, Option.getD_some, custom, whole, List.filter_append, List.filter_cons]
    split <;> simp
  · rw [compose_eq_general, Option.getD_some, custom, erased, List.filter_append, List.map_append,
      ← List.append_assoc]
    rfl

/-- A column that does not apply to a view may as well not be there. -/
theorem Column.compose_withoutCustom_eq (place : (config.custom.getD [])[index]? = some column)
    (stays : ¬ column.appliesTo view.kind = true) :
    compose (some (config.withoutCustom index)) view = compose (some config) view := by
  obtain ⟨front, back, composed, others⟩ := compose_withoutCustom place view
  rw [if_neg stays, List.append_nil] at composed
  rw [composed, others]

theorem ColumnConfig.showsCustom_iff (place : (config.custom.getD [])[index]? = some column) :
    config.ShowsCustom index column view ↔ column.appliesTo view.kind = true := by
  constructor
  · rintro ⟨front, back, composed, others⟩
    by_contra stays
    -- With the column there is one more than without it, so the two cannot be the same.
    have same := Column.compose_withoutCustom_eq place stays
    rw [composed, others] at same
    have lengths := congrArg List.length same
    simp only [List.length_append, List.length_cons] at lengths
    omega
  · intro applies
    obtain ⟨front, back, composed, others⟩ := Column.compose_withoutCustom place view
    rw [if_pos applies, List.append_assoc] at composed
    exact ⟨front, back, composed, others⟩

end OneColumn

end PortalConfig
