import PortalConfig.Proofs.Settings.Document

/-!
# Reading a table of settings

Whether a value is accepted for a setting does not depend on what is set so far (`Uniform`), so of
a table it can be said entry by entry what is accepted. A table is read in the order of its keys,
and the first entry that is not accepted decides what is reported
(`SettingReader.table_eq_error`).
-/

namespace PortalConfig

/-! ## Readings that do not look at what is set so far -/

section Uniform

variable {ε σ α : Type}

/-- A step that succeeds whatever is set so far, or fails with the same problem whatever is set. -/
def Uniform (step : σ → Except ε σ) : Prop :=
  (∀ state, ∃ next, step state = .ok next) ∨ ∃ problem, ∀ state, step state = .error problem

theorem uniform_error (problem : ε) : Uniform fun _ : σ => .error problem :=
  Or.inr ⟨problem, fun _ => rfl⟩

/-- What is read once and then set. -/
theorem uniform_set (read : Except ε α) (set : α → σ → σ) :
    Uniform fun state => do
      let value ← read
      return set value state := by
  cases read with
  | error problem => exact Or.inr ⟨problem, fun _ => rfl⟩
  | ok value => exact Or.inl fun state => ⟨set value state, rfl⟩

variable {step : σ → α → Except ε σ} {items : List α}

theorem foldlM_cons_ok {first : α} {rest : List α} {state next : σ}
    (here : step state first = .ok next) :
    (first :: rest).foldlM step state = rest.foldlM step next := by
  rw [List.foldlM_cons, here]
  rfl

theorem foldlM_cons_error {first : α} {rest : List α} {state : σ} {problem : ε}
    (here : step state first = .error problem) :
    (first :: rest).foldlM step state = .error problem := by
  rw [List.foldlM_cons, here]
  rfl

/-- A run over items that are all accepted fails at the first one behind them that is not. -/
theorem foldlM_eq_error {before after : List α} {first : α} {problem : ε}
    (accepted : ∀ a ∈ before, ∀ state, ∃ next, step state a = .ok next)
    (fails : ∀ state, step state first = .error problem) (state : σ) :
    (before ++ first :: after).foldlM step state = .error problem := by
  induction before generalizing state with
  | nil => exact foldlM_cons_error (fails state)
  | cons a before ih =>
      obtain ⟨here, later⟩ := List.forall_mem_cons.1 accepted
      obtain ⟨next, ok⟩ := here state
      rw [List.cons_append, foldlM_cons_ok ok]
      exact ih later next

/-- A run that succeeds once has accepted every item, whatever was set. -/
theorem accepted_of_foldlM_eq_ok (uniform : ∀ a ∈ items, Uniform (step · a)) {state last : σ}
    (ok : items.foldlM step state = .ok last) :
    ∀ a ∈ items, ∀ state, ∃ next, step state a = .ok next := by
  induction items generalizing state with
  | nil => exact fun a mem => (List.not_mem_nil mem).elim
  | cons first rest ih =>
      obtain ⟨here, later⟩ := List.forall_mem_cons.1 uniform
      rcases here with accepts | ⟨problem, fails⟩
      · obtain ⟨next, first_ok⟩ := accepts state
        rw [foldlM_cons_ok first_ok] at ok
        exact List.forall_mem_cons.2 ⟨accepts, ih later ok⟩
      · rw [foldlM_cons_error (fails state)] at ok
        cases ok

theorem uniform_foldlM (uniform : ∀ a ∈ items, Uniform (step · a)) :
    Uniform (items.foldlM step ·) := by
  induction items with
  | nil => exact Or.inl fun state => ⟨state, rfl⟩
  | cons first rest ih =>
      obtain ⟨here, later⟩ := List.forall_mem_cons.1 uniform
      rcases here with accepts | ⟨problem, fails⟩
      · rcases ih later with all | ⟨problem, fails⟩
        · refine Or.inl fun state => ?_
          obtain ⟨next, ok⟩ := accepts state
          obtain ⟨last, rest_ok⟩ := all next
          exact ⟨last, (foldlM_cons_ok ok).trans rest_ok⟩
        · refine Or.inr ⟨problem, fun state => ?_⟩
          obtain ⟨next, ok⟩ := accepts state
          exact (foldlM_cons_ok ok).trans (fails next)
      · exact Or.inr ⟨problem, fun state => foldlM_cons_error (fails state)⟩

end Uniform

namespace SettingReader

variable {σ : Type} {fields : List (SettingField σ)} {path : List String}

/-- Fields whose values are read without a look at what is set so far. -/
def AllUniform (fields : List (SettingField σ)) : Prop :=
  ∀ field ∈ fields, ∀ path value, Uniform (field.read path value)

/-- A single field whose value is read and then set. -/
theorem allUniform_singleton {α : Type} (key : String) (read : SettingReader α)
    (set : α → σ → σ) :
    AllUniform [⟨key, fun path value state => do
      let given ← read path value
      return set given state⟩] := by
  intro field mem path value
  obtain rfl := List.mem_singleton.1 mem
  exact uniform_set _ _

theorem readEntry_of_find? {field : SettingField σ} {entry : String × SettingOrigin × SettingValue}
    (found : fields.find? (·.key == entry.1) = some field) (state : σ) :
    readEntry fields path state entry = field.read (path ++ [entry.1]) entry.2.2 state := by
  simp only [readEntry, found]

theorem readEntry_of_notMem {entry : String × SettingOrigin × SettingValue}
    (absent : entry.1 ∉ fields.map (·.key)) (state : σ) :
    readEntry fields path state entry =
      .error (.unknownKey (path ++ [entry.1]) entry.1 (fields.map (·.key)) entry.2.1) := by
  have none : fields.find? (·.key == entry.1) = none := by
    rw [List.find?_eq_none]
    intro field mem same
    exact absent (beq_iff_eq.1 same ▸ List.mem_map_of_mem mem)
  simp only [readEntry, none]

theorem uniform_readEntry (uniform : AllUniform fields)
    (entry : String × SettingOrigin × SettingValue) :
    Uniform (readEntry fields path · entry) := by
  cases found : fields.find? (·.key == entry.1) with
  | none =>
      simp only [readEntry, found]
      exact uniform_error _
  | some field =>
      simp only [readEntry_of_find? found]
      exact uniform field (List.mem_of_find?_eq_some found) _ _

/-- A table reads its fields without a look at what is set so far if they all do. -/
theorem uniform_table (uniform : AllUniform fields) (name : String) (path : List String)
    (value : SettingValue) : Uniform (table name fields path value) := by
  cases value with
  | table entries => exact uniform_foldlM fun entry _ => uniform_readEntry uniform entry
  | list values =>
      refine uniform_foldlM fun item mem => ?_
      exact uniform item.1.1 (List.of_mem_zip (List.fst_mem_of_mem_zipIdx mem)).1 _ _
  | string | boolean | signed | unsigned | float => exact uniform_error _

/-- An entry that is accepted whatever is set so far. -/
def Accepts (fields : List (SettingField σ)) (path : List String)
    (entry : String × SettingOrigin × SettingValue) : Prop :=
  ∀ state, ∃ next, readEntry fields path state entry = .ok next

theorem accepts_of_table_eq_ok (uniform : AllUniform fields) {name : String}
    {entries : SettingEntries} {state last : σ}
    (ok : table name fields path (.table entries) state = .ok last)
    {entry : String × SettingOrigin × SettingValue} (mem : entry ∈ entries) :
    Accepts fields path entry := by
  change (sortEntries entries).foldlM (readEntry fields path) state = .ok last at ok
  exact accepted_of_foldlM_eq_ok (fun other _ => uniform_readEntry uniform other) ok entry
    (List.mem_mergeSort.2 mem)

theorem pairwise_sortEntries (entries : SettingEntries) :
    (sortEntries entries).Pairwise fun a b => a.1 ≤ b.1 := by
  have pairs : (sortEntries entries).Pairwise fun a b => decide (a.1 ≤ b.1) = true := by
    refine List.pairwise_mergeSort (fun a b c ab bc => ?_) (fun a b => ?_) entries
    · exact decide_eq_true (String.le_trans (of_decide_eq_true ab) (of_decide_eq_true bc))
    · simpa using String.le_total a.1 b.1
  exact pairs.imp of_decide_eq_true

/-- Of the entries of a kind, the one whose key comes first is met first. -/
theorem exists_first (unfit : String × SettingOrigin × SettingValue → Prop)
    {entries : SettingEntries} (exist : ∃ entry ∈ entries, unfit entry) :
    ∃ before first after, sortEntries entries = before ++ first :: after ∧
      (∀ entry ∈ before, ¬ unfit entry) ∧ unfit first ∧
      ∀ entry ∈ entries, unfit entry → first.1 ≤ entry.1 := by
  classical
  obtain ⟨own, mem, isUnfit⟩ := exist
  have present : ((sortEntries entries).find? unfit).isSome := by
    rw [List.find?_isSome]
    exact ⟨own, List.mem_mergeSort.2 mem, decide_eq_true isUnfit⟩
  obtain ⟨first, found⟩ := Option.isSome_iff_exists.1 present
  obtain ⟨firstUnfit, before, after, split, passed⟩ := List.find?_eq_some_iff_append.1 found
  have fit : ∀ entry ∈ before, ¬ unfit entry := by
    intro entry entryMem
    simpa using passed entry entryMem
  refine ⟨before, first, after, split, fit, of_decide_eq_true firstUnfit, ?_⟩
  intro entry entryMem entryUnfit
  have sorted := pairwise_sortEntries entries
  have standing : entry ∈ before ++ first :: after := split ▸ List.mem_mergeSort.2 entryMem
  rw [split, List.pairwise_append] at sorted
  rcases List.mem_append.1 standing with earlier | later
  · exact (fit entry earlier entryUnfit).elim
  · rcases List.mem_cons.1 later with rfl | behind
    · exact String.le_refl _
    · exact (List.pairwise_cons.1 sorted.2.1).1 entry behind

/-- The first entry that is not accepted decides what is reported of a table. -/
theorem table_eq_error {name : String} {entries before after : SettingEntries}
    {first : String × SettingOrigin × SettingValue} {problem : SettingProblem}
    (split : sortEntries entries = before ++ first :: after)
    (accepted : ∀ entry ∈ before, Accepts fields path entry)
    (fails : ∀ state, readEntry fields path state first = .error problem) (state : σ) :
    table name fields path (.table entries) state = .error problem := by
  change (sortEntries entries).foldlM (readEntry fields path) state = .error problem
  rw [split]
  exact foldlM_eq_error accepted fails state

/-- In a table that only unknown keys keep from being accepted, the first of them is reported. -/
theorem table_unknown (uniform : AllUniform fields) (name : String) {entries : SettingEntries}
    {state last : σ}
    (kept : table name fields path
      (.table (entries.filter fun entry => entry.1 ∈ fields.map (·.key))) state = .ok last)
    (exist : ∃ entry ∈ entries, entry.1 ∉ fields.map (·.key)) :
    ∃ first ∈ entries, first.1 ∉ fields.map (·.key) ∧
      (∀ entry ∈ entries, entry.1 ∉ fields.map (·.key) → first.1 ≤ entry.1) ∧
      ∀ state, table name fields path (.table entries) state =
        .error (.unknownKey (path ++ [first.1]) first.1 (fields.map (·.key)) first.2.1) := by
  obtain ⟨before, first, after, split, known, unknown, least⟩ := exists_first _ exist
  have mem_of_split : ∀ entry, entry ∈ before ++ first :: after → entry ∈ entries :=
    fun entry mem => List.mem_mergeSort.1 (split ▸ mem)
  refine ⟨first, mem_of_split first (by simp), unknown, least, fun now => ?_⟩
  refine table_eq_error split (fun entry mem => ?_) (readEntry_of_notMem unknown) now
  refine accepts_of_table_eq_ok uniform kept (List.mem_filter.2 ⟨?_, ?_⟩)
  · exact mem_of_split entry (List.mem_append_left _ mem)
  · exact decide_eq_true (Decidable.not_not.1 (known entry mem))

end SettingReader

end PortalConfig
