import PortalConfig.Proofs.Keyed
import PortalConfig.Settings.Layers

/-!
# Settings from one text

A document gives no key of its root table twice (`Toml.nodup_keys_of_read?`), so laying it over
nothing leaves it as it is, and what is reported of a text alone is what is wrong with its document
(`Settings.ofText_eq_error`). Every entry of the document comes from that text
(`SettingValue.origin_of_mem`).
-/

namespace PortalConfig

/-! ## The keys of the root table -/

namespace Toml

/-- A change of the entries of a table that repeats no key. -/
def KeepsDistinct (change : TableKind → Entries → Option Entries) : Prop :=
  ∀ kind entries result, change kind entries = some result →
    (Members.keys entries).Nodup → (Members.keys result).Nodup

theorem nodup_keys_insert {entries : Entries} (distinct : (Members.keys entries).Nodup)
    (key : String) (node : Node) : (Members.keys (Members.insert entries key node)).Nodup :=
  Members.nodup_keys_upsert distinct key _

/-- Changing a table further down sets one key of this one. -/
theorem KeepsDistinct.descend {change : TableKind → Entries → Option Entries}
    (keeps : KeepsDistinct change) (made : TableKind) (path : List String) :
    KeepsDistinct fun kind entries => Toml.descend made change kind entries path := by
  intro kind entries result found distinct
  change Toml.descend made change kind entries path = some result at found
  cases path with
  | nil =>
      rw [Toml.descend] at found
      exact keeps kind entries result found distinct
  | cons key rest =>
      rw [Toml.descend] at found
      split at found
      · obtain ⟨below, -, rfl⟩ := Option.map_eq_some_iff.1 found
        exact nodup_keys_insert distinct key _
      · split at found
        · cases found
        · obtain ⟨below, -, rfl⟩ := Option.map_eq_some_iff.1 found
          exact nodup_keys_insert distinct key _
      · obtain ⟨latest, -, rfl⟩ := Option.map_eq_some_iff.1 found
        exact nodup_keys_insert distinct key _
      · cases found
      · cases found

theorem keepsDistinct_openTable (key : String) : KeepsDistinct (openTable key) := by
  intro kind entries result found distinct
  unfold openTable at found
  split at found
  · obtain rfl := Option.some.inj found
    exact nodup_keys_insert distinct key _
  · obtain rfl := Option.some.inj found
    exact nodup_keys_insert distinct key _
  · cases found

theorem keepsDistinct_openListItem (key : String) : KeepsDistinct (openListItem key) := by
  intro kind entries result found distinct
  unfold openListItem at found
  split at found
  · obtain rfl := Option.some.inj found
    exact nodup_keys_insert distinct key _
  · obtain rfl := Option.some.inj found
    exact nodup_keys_insert distinct key _
  · cases found

theorem keepsDistinct_setKey (path : List String) (key : String) (value : Value) :
    KeepsDistinct (setKey path key value) := by
  intro kind entries result found distinct
  unfold setKey at found
  split at found
  · cases found
  · split at found
    · obtain rfl := Option.some.inj found
      exact nodup_keys_insert distinct key _
    · cases found

/-- A statement repeats no key of the root table. -/
theorem nodup_keys_add {building next : Building} {statement : Statement}
    (added : building.add statement = some next) (distinct : (Members.keys building.root).Nodup) :
    (Members.keys next.root).Nodup := by
  have opened : ∀ (path : List String) (change : String → TableKind → Entries → Option Entries),
      (∀ key, KeepsDistinct (change key)) → building.openAt path change = some next →
        (Members.keys next.root).Nodup := by
    intro path change keeps found
    obtain ⟨key, -, rest⟩ := Option.bind_eq_some_iff.1 found
    obtain ⟨root, descended, same⟩ := Option.bind_eq_some_iff.1 rest
    obtain rfl := Option.some.inj same
    exact (keeps key).descend .implied path.dropLast .header _ _ descended distinct
  cases statement with
  | header path => exact opened path openTable keepsDistinct_openTable added
  | listHeader path => exact opened path openListItem keepsDistinct_openListItem added
  | assign path key value =>
      obtain ⟨root, descended, rfl⟩ := Option.map_eq_some_iff.1 added
      have keeps : KeepsDistinct (assign path key value) :=
        (keepsDistinct_setKey path key value).descend .dotted path
      exact keeps.descend .implied building.current .header _ _ descended distinct

theorem nodup_keys_foldlM {statements : List Statement} {building next : Building}
    (added : statements.foldlM Building.add building = some next)
    (distinct : (Members.keys building.root).Nodup) : (Members.keys next.root).Nodup := by
  induction statements generalizing building with
  | nil =>
      obtain rfl := Option.some.inj added
      exact distinct
  | cons statement rest ih =>
      rw [List.foldlM_cons] at added
      obtain ⟨middle, first, later⟩ := Option.bind_eq_some_iff.1 added
      exact ih later (nodup_keys_add first distinct)

theorem keys_finishEntries (entries : Entries) :
    (finishEntries entries).map Prod.fst = Members.keys entries := by
  induction entries with
  | nil => rw [finishEntries]; rfl
  | cons entry rest ih => rw [finishEntries, List.map_cons, ih]; rfl

/-- A document gives no key of its root table twice. -/
theorem nodup_keys_of_read? {text : String} {top : List (String × Value)}
    (read : read? text = some top) : (top.map Prod.fst).Nodup := by
  obtain ⟨statements, -, defined⟩ := Option.bind_eq_some_iff.1 read
  obtain ⟨building, added, rfl⟩ := Option.map_eq_some_iff.1 defined
  rw [keys_finishEntries]
  exact nodup_keys_foldlM added List.nodup_nil

end Toml

/-! ## The document as it is -/

/-- The entries of a table of settings. -/
abbrev SettingEntries := List (String × SettingOrigin × SettingValue)

namespace SettingValue

theorem keys_ofTomlEntries (origin : SettingOrigin) (top : List (String × Toml.Value)) :
    (ofTomlEntries origin top).map Prod.fst = top.map Prod.fst := by
  induction top with
  | nil => rw [ofTomlEntries]; rfl
  | cons entry rest ih => rw [ofTomlEntries, List.map_cons, List.map_cons, ih]

theorem mem_ofTomlEntries {origin : SettingOrigin} {top : List (String × Toml.Value)}
    {entry : String × SettingOrigin × SettingValue} (mem : entry ∈ ofTomlEntries origin top) :
    ∃ value, entry.2 = (origin, ofToml origin value) := by
  induction top with
  | nil => rw [ofTomlEntries] at mem; cases mem
  | cons first rest ih =>
      rw [ofTomlEntries] at mem
      rcases List.mem_cons.1 mem with rfl | later
      · exact ⟨first.2, rfl⟩
      · exact ih later

/-- The entries of a table within a document come from where the document comes from. -/
theorem origin_of_mem {origin : SettingOrigin} {value : Toml.Value} {entries : SettingEntries}
    (table : ofToml origin value = .table entries)
    {entry : String × SettingOrigin × SettingValue} (mem : entry ∈ entries) :
    entry.2.1 = origin := by
  cases value with
  | datetime text =>
      rw [ofToml, SettingValue.table.injEq] at table
      subst table
      obtain rfl := List.mem_singleton.1 mem
      rfl
  | table inner =>
      rw [ofToml, SettingValue.table.injEq] at table
      subst table
      obtain ⟨inside, same⟩ := mem_ofTomlEntries mem
      rw [same]
  | string | integer | float | boolean | array =>
      rw [ofToml] at table
      cases table

/-- Entries under new keys are laid behind those that are there. -/
theorem mergeEntries_of_nodup {earlier later : SettingEntries}
    (distinct : ((earlier ++ later).map Prod.fst).Nodup) :
    mergeEntries earlier later = earlier ++ later := by
  induction later generalizing earlier with
  | nil => rw [mergeEntries, List.append_nil]
  | cons entry rest ih =>
      obtain ⟨key, origin, value⟩ := entry
      rw [List.append_cons] at distinct ⊢
      have absent : key ∉ Members.keys earlier := by
        intro present
        have one := distinct.sublist ((List.sublist_append_left _ _).map _)
        rw [List.map_append, List.nodup_append] at one
        exact one.2.2 key present key List.mem_cons_self rfl
      rw [mergeEntries, Members.upsert_of_notMem _ absent]
      exact ih distinct

end SettingValue

namespace Settings

/-- The entries of a document that a text alone gives. -/
def document (top : List (String × Toml.Value)) : SettingEntries :=
  SettingValue.ofTomlEntries (some inlineName) top

theorem layered_document {top : List (String × Toml.Value)} (distinct : (top.map Prod.fst).Nodup) :
    layered [.table (document top)] [] = .table (document top) := by
  have alone : SettingValue.mergeEntries [] (document top) = document top := by
    refine SettingValue.mergeEntries_of_nodup ?_
    rwa [List.nil_append, document, SettingValue.keys_ofTomlEntries]
  change SettingValue.merge (SettingValue.merge (.table []) (.table (document top))) (.table []) = _
  rw [SettingValue.merge, alone, SettingValue.merge, SettingValue.mergeEntries]

/-- The text that settings come from when they come from no file. -/
def inlineFile (text : String) : SettingsFile := ⟨inlineName, some text, true⟩

/-- What keeps the document from being taken for settings is what is reported of the text. -/
theorem ofText_eq_error {text : String} {top : List (String × Toml.Value)}
    {problem : SettingProblem} (read : Toml.read? text = some top)
    (refused : extract (.table (document top)) = .error problem) :
    ofText text = .error [problem.diagnostic [inlineFile text]] := by
  have value : fileValue? (inlineFile text) = some (.table (document top)) := by
    change (Toml.read? text).map (fun entries => SettingValue.ofToml (some inlineName)
      (.table entries)) = _
    rw [read, Option.map_some, SettingValue.ofToml, document]
  have whole : [inlineFile text].filter (fun file => (fileValue? file).isNone) = [] := by
    rw [List.filter_singleton, value]
    rfl
  have values : [inlineFile text].filterMap fileValue? = [.table (document top)] := by
    rw [List.filterMap_cons_some value, List.filterMap_nil]
  have alone : extract (layered [.table (document top)] []) = .error problem := by
    rw [layered_document (Toml.nodup_keys_of_read? read), refused]
  change load [inlineFile text] [] = _
  simp only [load, whole, values, alone]

end Settings

end PortalConfig
