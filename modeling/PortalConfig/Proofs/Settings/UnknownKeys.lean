import PortalConfig.Proofs.Settings.Reading

/-!
# Unknown keys of settings

A key is unknown at the root of a document if it names no section, and in a section if it names no
setting of that section (`Settings.Unknown`). A document that is accepted without its unknown keys
is refused for the one whose location comes first (`Settings.exists_firstUnknown`): the sections are
read in the order of their keys, and each reports the first of its own unknown keys.
-/

namespace PortalConfig

namespace Settings

/-! ## Where a key is unknown -/

/-- The settings that each section has. -/
def sectionKeys : Members (List String) :=
  [("logging", ["level"]), ("sources", ["app_config"]), ("output", ["pretty"])]

/-- An entry of the document whose key means nothing where it stands: the path of its table, the
entry, and the keys that the table may have. -/
inductive Unknown (top : SettingEntries) :
    List String → String × SettingOrigin × SettingValue → List String → Prop where
  | atTop {entry : String × SettingOrigin × SettingValue} (mem : entry ∈ top)
      (absent : entry.1 ∉ sectionKeys.keys) : Unknown top [] entry sectionKeys.keys
  | inSection {name : String} {valid : List String} {origin : SettingOrigin}
      {entries : SettingEntries} {entry : String × SettingOrigin × SettingValue}
      (known : (name, valid) ∈ sectionKeys) (table : (name, origin, .table entries) ∈ top)
      (mem : entry ∈ entries) (absent : entry.1 ∉ valid) : Unknown top [name] entry valid

/-- The entries of a table without unknown keys; anything else as it is. -/
def keepKeys (valid : List String) : SettingValue → SettingValue
  | .table entries => .table (entries.filter fun entry => entry.1 ∈ valid)
  | value => value

/-- The document without its unknown keys. -/
def withoutUnknown (top : SettingEntries) : SettingEntries :=
  top.filterMap fun entry => (sectionKeys.get? entry.1).map fun valid =>
    (entry.1, entry.2.1, keepKeys valid entry.2.2)

/-- The unknown entry whose location, the path of its table with its key at the end, comes first. -/
structure FirstUnknown (top : SettingEntries) (path : List String)
    (entry : String × SettingOrigin × SettingValue) (valid : List String) : Prop where
  unknown : Unknown top path entry valid
  least : ∀ other place keys, Unknown top place other keys →
    ¬ List.Lex (· < ·) (place ++ [other.1]) (path ++ [entry.1])

theorem uniform_loggingFields : SettingReader.AllUniform loggingFields :=
  SettingReader.allUniform_singleton "level" (SettingReader.string "a string")
    fun level (settings : Settings) => { settings with level }

theorem uniform_sourceFields : SettingReader.AllUniform sourceFields :=
  SettingReader.allUniform_singleton "app_config"
    (SettingReader.list (SettingReader.string "path string"))
    fun appConfig (settings : Settings) => { settings with appConfig }

theorem uniform_outputFields : SettingReader.AllUniform outputFields :=
  SettingReader.allUniform_singleton "pretty" SettingReader.boolean
    fun pretty (settings : Settings) => { settings with pretty }

theorem uniform_sectionFields : SettingReader.AllUniform sectionFields := by
  intro field mem path value
  rcases List.mem_cons.1 mem with rfl | mem
  · exact SettingReader.uniform_table uniform_loggingFields _ _ _
  rcases List.mem_cons.1 mem with rfl | mem
  · exact SettingReader.uniform_table uniform_sourceFields _ _ _
  obtain rfl := List.mem_singleton.1 mem
  exact SettingReader.uniform_table uniform_outputFields _ _ _

theorem keys_sectionFields : sectionFields.map (·.key) = sectionKeys.keys := rfl

/-- A section is read as a table of its settings. -/
theorem exists_fields_of_mem {name : String} {valid : List String}
    (known : (name, valid) ∈ sectionKeys) :
    ∃ title fields, sectionFields.find? (·.key == name) =
        some ⟨name, SettingReader.table title fields⟩ ∧
      fields.map (·.key) = valid ∧ SettingReader.AllUniform fields := by
  rcases List.mem_cons.1 known with same | known
  · cases same
    exact ⟨_, loggingFields, rfl, rfl, uniform_loggingFields⟩
  rcases List.mem_cons.1 known with same | known
  · cases same
    exact ⟨_, sourceFields, rfl, rfl, uniform_sourceFields⟩
  cases List.mem_singleton.1 known
  exact ⟨_, outputFields, rfl, rfl, uniform_outputFields⟩

theorem nodup_sectionKeys : sectionKeys.keys.Nodup := by decide

theorem mem_withoutUnknown {top : SettingEntries} {name : String} {valid : List String}
    {origin : SettingOrigin} {value : SettingValue} (known : (name, valid) ∈ sectionKeys)
    (mem : (name, origin, value) ∈ top) :
    (name, origin, keepKeys valid value) ∈ withoutUnknown top := by
  rw [withoutUnknown, List.mem_filterMap]
  refine ⟨_, mem, ?_⟩
  rw [Members.get?_of_mem nodup_sectionKeys known]
  rfl

/-! ## The entry that is reported -/

theorem unknown_iff_exists_mem {top : SettingEntries} {path valid : List String}
    {entry : String × SettingOrigin × SettingValue} :
    Unknown top path entry valid ↔ ∃ holder ∈ top, Unknown [holder] path entry valid := by
  constructor
  · intro unknown
    cases unknown with
    | atTop mem absent => exact ⟨_, mem, .atTop List.mem_cons_self absent⟩
    | inSection known table mem absent =>
        exact ⟨_, table, .inSection known List.mem_cons_self mem absent⟩
  · intro holds
    rcases holds with ⟨holder, holderMem, unknown⟩
    cases unknown with
    | atTop mem absent =>
        obtain rfl := List.mem_singleton.1 mem
        exact .atTop holderMem absent
    | inSection known table mem absent =>
        obtain rfl := List.mem_singleton.1 table
        exact .inSection known holderMem mem absent

/-- The location of an unknown key starts with the key of the entry that holds it. -/
theorem Unknown.location_eq {holder entry : String × SettingOrigin × SettingValue}
    {path valid : List String} (unknown : Unknown [holder] path entry valid) :
    ∃ rest, path ++ [entry.1] = holder.1 :: rest := by
  cases unknown with
  | atTop mem absent =>
      obtain rfl := List.mem_singleton.1 mem
      exact ⟨[], rfl⟩
  | inSection known table mem absent =>
      obtain rfl := List.mem_singleton.1 table
      exact ⟨[entry.1], rfl⟩

/-- Without its unknown keys an entry without unknown keys is what it is. -/
theorem keepKeys_eq {name : String} {origin : SettingOrigin} {value : SettingValue}
    {valid : List String} (known : (name, valid) ∈ sectionKeys)
    (fit : ¬ ∃ path entry keys, Unknown [(name, origin, value)] path entry keys) :
    keepKeys valid value = value := by
  cases value with
  | table entries =>
      rw [keepKeys, SettingValue.table.injEq, List.filter_eq_self]
      intro entry mem
      by_contra absent
      exact fit ⟨_, entry, valid, .inSection known List.mem_cons_self mem
        fun present => absent (decide_eq_true present)⟩
  | string | boolean | signed | unsigned | float | list => rfl

/-- Two locations in one section are in the order of their last keys. -/
theorem not_lex_of_le {name key other : String} (le : key ≤ other) :
    ¬ List.Lex (· < ·) [name, other] [name, key] := by
  intro before
  cases before with
  | rel less => exact String.lt_irrefl name less
  | cons inner =>
      cases inner with
      | rel less => exact String.not_lt.2 le less
      | cons deeper => cases deeper

/-- Two locations under different keys are in the order of those keys. -/
theorem not_lex_of_le_of_ne {head other : String} {rest otherRest : List String}
    (le : head ≤ other) (ne : other ≠ head) :
    ¬ List.Lex (· < ·) (other :: otherRest) (head :: rest) := by
  intro before
  cases before with
  | rel less => exact String.not_lt.2 le less
  | cons => exact ne rfl

theorem firstUnknown_atTop {entry : String × SettingOrigin × SettingValue}
    (absent : entry.1 ∉ sectionKeys.keys) : FirstUnknown [entry] [] entry sectionKeys.keys := by
  refine ⟨.atTop List.mem_cons_self absent, ?_⟩
  intro other place keys unknown before
  cases unknown with
  | atTop otherMem _ =>
      obtain rfl := List.mem_singleton.1 otherMem
      cases before with
      | rel less => exact String.lt_irrefl _ less
      | cons deeper => cases deeper
  | inSection known table _ _ =>
      obtain rfl := List.mem_singleton.1 table
      exact absent (List.mem_map_of_mem known)

theorem firstUnknown_inSection {name : String} {valid : List String} {origin : SettingOrigin}
    {entries : SettingEntries} {first : String × SettingOrigin × SettingValue}
    (known : (name, valid) ∈ sectionKeys) (mem : first ∈ entries) (absent : first.1 ∉ valid)
    (least : ∀ entry ∈ entries, entry.1 ∉ valid → first.1 ≤ entry.1) :
    FirstUnknown [(name, origin, .table entries)] [name] first valid := by
  refine ⟨.inSection known List.mem_cons_self mem absent, ?_⟩
  intro other place keys unknown
  cases unknown with
  | atTop otherMem otherAbsent =>
      obtain rfl := List.mem_singleton.1 otherMem
      exact (otherAbsent (List.mem_map_of_mem known)).elim
  | inSection otherKnown otherTable otherMem otherAbsent =>
      cases List.mem_singleton.1 otherTable
      have same := (Members.get?_of_mem nodup_sectionKeys known).symm.trans
        (Members.get?_of_mem nodup_sectionKeys otherKnown)
      rw [← Option.some.inj same] at otherAbsent
      exact not_lex_of_le (least other otherMem otherAbsent)

variable {top : SettingEntries}

/-- An entry that only unknown keys keep from being accepted is reported for the first of them. -/
theorem exists_firstUnknown_of_holder {holder : String × SettingOrigin × SettingValue}
    (kept : ∀ entry ∈ withoutUnknown top, SettingReader.Accepts sectionFields [] entry)
    (holderMem : holder ∈ top) (exist : ∃ path entry valid, Unknown [holder] path entry valid) :
    ∃ path entry valid, FirstUnknown [holder] path entry valid ∧
      ∀ state, SettingReader.readEntry sectionFields [] state holder =
        .error (.unknownKey (path ++ [entry.1]) entry.1 valid entry.2.1) := by
  obtain ⟨path, entry, valid, unknown⟩ := exist
  cases unknown with
  | @atTop entry mem absent =>
      obtain rfl := List.mem_singleton.1 mem
      have unnamed : entry.1 ∉ sectionFields.map (·.key) := by rwa [keys_sectionFields]
      refine ⟨_, _, _, firstUnknown_atTop absent, fun state => ?_⟩
      rw [SettingReader.readEntry_of_notMem unnamed, keys_sectionFields]
  | @inSection name _ origin entries _ known table mem absent =>
      obtain rfl := List.mem_singleton.1 table
      obtain ⟨title, fields, found, rfl, uniform⟩ := exists_fields_of_mem known
      obtain ⟨last, ok⟩ := kept _ (mem_withoutUnknown known holderMem) default
      rw [SettingReader.readEntry_of_find? found] at ok
      obtain ⟨first, firstMem, firstAbsent, least, fails⟩ :=
        SettingReader.table_unknown uniform title ok ⟨entry, mem, absent⟩
      refine ⟨_, _, _, firstUnknown_inSection known firstMem firstAbsent least, fun state => ?_⟩
      rw [SettingReader.readEntry_of_find? found]
      exact fails state

/-- An entry that holds no unknown key is accepted if it is in the document without them. -/
theorem accepts_of_fit {holder : String × SettingOrigin × SettingValue}
    (kept : ∀ entry ∈ withoutUnknown top, SettingReader.Accepts sectionFields [] entry)
    (holderMem : holder ∈ top) (fit : ¬ ∃ path entry valid, Unknown [holder] path entry valid) :
    SettingReader.Accepts sectionFields [] holder := by
  obtain ⟨name, origin, value⟩ := holder
  have present : name ∈ sectionKeys.keys := by
    by_contra absent
    exact fit ⟨_, _, _, .atTop List.mem_cons_self absent⟩
  obtain ⟨⟨_, valid⟩, known, rfl⟩ := List.mem_map.1 present
  have same := kept _ (mem_withoutUnknown known holderMem)
  rwa [keepKeys_eq known fit] at same

/-- Of a document that only unknown keys keep from being accepted the first one is reported. -/
theorem exists_firstUnknown {settings : Settings} (distinct : (top.map Prod.fst).Nodup)
    (kept : extract (.table (withoutUnknown top)) = .ok settings)
    (exist : ∃ path entry valid, Unknown top path entry valid) :
    ∃ path entry valid, FirstUnknown top path entry valid ∧
      extract (.table top) =
        .error (.unknownKey (path ++ [entry.1]) entry.1 valid entry.2.1) := by
  have accepted : ∀ entry ∈ withoutUnknown top, SettingReader.Accepts sectionFields [] entry :=
    fun entry mem => SettingReader.accepts_of_table_eq_ok uniform_sectionFields kept mem
  obtain ⟨path, entry, valid, unknown⟩ := exist
  obtain ⟨own, ownMem, ownUnknown⟩ := unknown_iff_exists_mem.1 unknown
  obtain ⟨before, holder, after, split, fit, unfit, least⟩ := SettingReader.exists_first
    (fun holder => ∃ path entry valid, Unknown [holder] path entry valid)
    ⟨own, ownMem, path, entry, valid, ownUnknown⟩
  have mem_of_split : ∀ entry, entry ∈ before ++ holder :: after → entry ∈ top :=
    fun entry mem => List.mem_mergeSort.1 (split ▸ mem)
  have holderMem : holder ∈ top := mem_of_split holder (by simp)
  obtain ⟨place, first, keys, isFirst, fails⟩ :=
    exists_firstUnknown_of_holder accepted holderMem unfit
  refine ⟨place, first, keys, ⟨?_, ?_⟩, ?_⟩
  · exact unknown_iff_exists_mem.2 ⟨holder, holderMem, isFirst.unknown⟩
  · intro other otherPlace otherKeys otherUnknown
    obtain ⟨otherHolder, otherMem, inHolder⟩ := unknown_iff_exists_mem.1 otherUnknown
    -- it stands in the same entry of the root, or under a key that comes later
    by_cases same : otherHolder = holder
    · subst same
      exact isFirst.least other otherPlace otherKeys inHolder
    · have ne : otherHolder.1 ≠ holder.1 :=
        fun eq => same (List.inj_on_of_nodup_map distinct otherMem holderMem eq)
      obtain ⟨rest, location⟩ := isFirst.unknown.location_eq
      obtain ⟨otherRest, otherLocation⟩ := inHolder.location_eq
      rw [location, otherLocation]
      exact not_lex_of_le_of_ne (least otherHolder otherMem ⟨_, _, _, inHolder⟩) ne
  · exact SettingReader.table_eq_error split (fun entry mem =>
      accepts_of_fit accepted (mem_of_split entry (List.mem_append_left _ mem)) (fit entry mem))
      fails default

end Settings

end PortalConfig
