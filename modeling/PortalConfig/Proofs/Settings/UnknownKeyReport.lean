import Mathlib
import PortalConfig.Proofs.Settings.UnknownKeys
import PortalConfig.Proofs.Source.KeyOffset

/-!
# What is reported of an unknown key

`Settings.exists_firstUnknown` says for which unknown key a text is refused. Here is what the report
says of it: the path that it names ends in the key, so it is not the location of the table that has
the key (`SettingProblem.sectionText_concat_eq_iff`), and the key is looked up along that path, at
the root of the document behind a header of its own name. What is marked in the text is the key,
less one byte for every carriage return that ends a line in between (`KeyReported`).
-/

namespace PortalConfig

/-! ## Where the look-up finds a key -/

namespace Source

/-- The place where the look-up of a key along a path finds it: on the first line behind the opening
that assigns it. The lines in between are passed. -/
inductive KeyAt (content : String) (path : List String) (field : String)
    (passed : List (List Char)) : Nat → Prop where
  | behind {opening below line : List Char} (opens : Opening content.toList path opening below)
      (assigned : FirstAssigned field.toList below passed line) :
      KeyAt content path field passed (byteSize (opening ++ (ended passed ++ indent line)))

variable {content field : String} {path : List String}

theorem keyOffset?_eq_some_iff_keyAt {offset : Nat} :
    keyOffset? content path field = some offset ↔
      ∃ passed, KeyAt content path field passed (offset + returns passed) := by
  rw [keyOffset?_eq_some_iff]
  constructor
  · rintro ⟨opening, below, passed, line, opens, assigned, sum⟩
    exact ⟨passed, sum ▸ .behind opens assigned⟩
  · rintro ⟨passed, found⟩
    generalize sum : offset + returns passed = place at found
    cases found with
    | behind opens assigned => exact ⟨_, _, passed, _, opens, assigned, sum⟩

variable {passed : List (List Char)} {place : Nat}

/-- The key stands at the place where it is found. -/
theorem KeyAt.bytesAt (found : KeyAt content path field passed place) :
    BytesAt content place field := by
  cases found with
  | @behind opening below line opens assigned =>
      obtain ⟨after, whole, -⟩ := assigned.whole
      obtain ⟨mark, rest, -, trimmed⟩ := assigned.assigns
      have line_eq : line = indent line ++ (field.toList ++ mark :: rest) := by
        rw [← trimmed, indent_append_trimStart]
      have below_eq : below =
          ended passed ++ indent line ++ (field.toList ++ (mark :: rest ++ after)) := by
        rw [whole]
        nth_rewrite 1 [line_eq]
        simp
      have split : content.toList =
          opening ++ (ended passed ++ indent line) ++ (field.toList ++ (mark :: rest ++ after)) := by
        rw [← opens.append_eq, List.append_assoc, ← below_eq]
      exact bytesAt_byteSize split

/-- A text without carriage returns has none at the end of a line. -/
theorem KeyAt.returns_eq_zero (found : KeyAt content path field passed place)
    (plain : '\r' ∉ content.toList) : returns passed = 0 := by
  cases found with
  | behind opens assigned =>
      obtain ⟨after, whole, -⟩ := assigned.whole
      rw [returns, List.countP_eq_zero]
      intro line mem ends
      have standing : '\r' ∈ line := List.mem_of_getLast? (of_decide_eq_true ends)
      have standing_ended : '\r' ∈ ended passed :=
        List.mem_flatMap.2 ⟨line, mem, List.mem_append_left _ standing⟩
      apply plain
      rw [← opens.append_eq, whole]
      exact List.mem_append_right _ (List.mem_append_left _ standing_ended)

end Source

/-! ## The location that is named -/

namespace SettingProblem

/-- The dotted location of the table at a path. -/
def tableLocation (path : List String) : String :=
  if path = [] then "<root>" else pathText path

variable {path : List String} {key : String}

theorem pathText_singleton (key : String) : pathText [key] = key :=
  String.intercalate_singleton

theorem pathText_concat (inner : path ≠ []) (key : String) :
    pathText (path ++ [key]) = pathText path ++ "." ++ key := by
  rw [pathText, String.intercalate_append_of_ne_nil inner (List.cons_ne_nil key []),
    String.intercalate_singleton, ← pathText]

theorem pathText_concat_eq_empty_iff :
    pathText (path ++ [key]) = "" ↔ path = [] ∧ key = "" := by
  by_cases root : path = []
  · subst root
    rw [List.nil_append, pathText_singleton, eq_self_iff_true, true_and]
  · rw [pathText_concat root, String.append_eq_empty_iff, String.append_eq_empty_iff]
    simp [root]

/-- The path of an unknown key is named with the key at its end. -/
theorem sectionText_concat (path : List String) (key : String) :
    sectionText (path ++ [key]) =
      if path = [] ∧ key = "" then "<root>" else pathText (path ++ [key]) := by
  rw [sectionText, if_congr pathText_concat_eq_empty_iff rfl rfl]

/-- What is named is the location of the table at the root only, if the key is empty or the name
of the root. -/
theorem sectionText_concat_eq_iff :
    sectionText (path ++ [key]) = tableLocation path ↔
      path = [] ∧ (key = "" ∨ key = "<root>") := by
  rw [sectionText_concat, tableLocation]
  by_cases root : path = []
  · subst root
    by_cases empty : key = ""
    · simp [empty]
    · simp [empty, pathText_singleton]
  · rw [if_neg (fun both => root both.1), if_neg root, pathText_concat root]
    -- the named path is longer by the point and the key
    have longer : pathText path ++ "." ++ key ≠ pathText path := by
      intro same
      have size := congrArg String.length same
      have point : ".".length = 1 := rfl
      rw [String.length_append, String.length_append, point] at size
      omega
    simp [root, longer]

end SettingProblem

namespace Settings

open SettingProblem Source

/-! ## The report -/

/-- Everything in a document comes from the text. -/
theorem Unknown.origin_eq {top : List (String × Toml.Value)} {path valid : List String}
    {entry : String × SettingOrigin × SettingValue}
    (unknown : Unknown (document top) path entry valid) : entry.2.1 = some inlineName := by
  cases unknown with
  | atTop mem absent =>
      obtain ⟨value, same⟩ := SettingValue.mem_ofTomlEntries mem
      rw [same]
  | inSection known table mem absent =>
      obtain ⟨value, same⟩ := SettingValue.mem_ofTomlEntries table
      exact SettingValue.origin_of_mem (Prod.mk.inj same).2.symm mem

theorem spanOf?_inlineFile (text : String) (path : List String) (key : String) :
    spanOf? [inlineFile text] path key (some inlineName) =
      (keyOffset? text path key).map fun offset => ⟨inlineName, offset, byteSize key.toList⟩ := by
  have only : fileOf? [inlineFile text] (some inlineName) = some (inlineFile text) := by
    simp [fileOf?, inlineFile]
  rw [spanOf?, only]
  rfl

/-- What a report says of a key that the table at a path does not have: the location that it names,
and what it marks in the text. -/
structure KeyReported (text : String) (path : List String) (key location : String)
    (span : Option SourceSpan) : Prop where
  /-- The location ends in the key. -/
  location_eq : location =
    if path = [] ∧ key = "" then "<root>" else pathText (path ++ [key])
  /-- So it is hardly ever that of the table. -/
  location_eq_iff : location = tableLocation path ↔ path = [] ∧ (key = "" ∨ key = "<root>")
  /-- The mark is as long as the key, and stands where the look-up along the location finds it. -/
  span_eq_some_iff : ∀ mark, span = some mark ↔
    mark.source = inlineName ∧ mark.length = key.utf8ByteSize ∧
      ∃ passed, KeyAt text (path ++ [key]) key passed (mark.offset + returns passed)
  /-- The key itself stands as many bytes behind the mark as lines in between end in a carriage
  return. -/
  covers : ∀ mark, span = some mark → ∃ passed,
    KeyAt text (path ++ [key]) key passed (mark.offset + returns passed) ∧
      BytesAt text (mark.offset + returns passed) key
  /-- Without carriage returns the mark covers the key. -/
  covers_of_plain : '\r' ∉ text.toList → ∀ mark, span = some mark → BytesAt text mark.offset key

theorem keyReported (text : String) (path : List String) (key : String) :
    KeyReported text path key (sectionText (path ++ [key]))
      (spanOf? [inlineFile text] (path ++ [key]) key (some inlineName)) := by
  have size : byteSize key.toList = key.utf8ByteSize := by
    rw [← utf8ByteSize_ofList, String.ofList_toList]
  have span_iff : ∀ mark, spanOf? [inlineFile text] (path ++ [key]) key (some inlineName) =
      some mark ↔ mark.source = inlineName ∧ mark.length = key.utf8ByteSize ∧
        ∃ passed, KeyAt text (path ++ [key]) key passed (mark.offset + returns passed) := by
    intro mark
    rw [spanOf?_inlineFile, Option.map_eq_some_iff, size]
    constructor
    · rintro ⟨offset, found, rfl⟩
      exact ⟨rfl, rfl, keyOffset?_eq_some_iff_keyAt.1 found⟩
    · obtain ⟨source, offset, length⟩ := mark
      rintro ⟨rfl, rfl, found⟩
      exact ⟨offset, keyOffset?_eq_some_iff_keyAt.2 found, rfl⟩
  refine ⟨sectionText_concat path key, sectionText_concat_eq_iff, span_iff, ?_, ?_⟩
  · intro mark marked
    obtain ⟨-, -, passed, found⟩ := (span_iff mark).1 marked
    exact ⟨passed, found, found.bytesAt⟩
  · intro plain mark marked
    obtain ⟨-, -, passed, found⟩ := (span_iff mark).1 marked
    have covered := found.bytesAt
    rwa [found.returns_eq_zero plain] at covered

/-- A text that only unknown keys keep from being accepted is refused for the one whose location
comes first, and for nothing else. -/
theorem ofText_unknownKey {text : String} {top : List (String × Toml.Value)} {settings : Settings}
    (read : Toml.read? text = some top)
    (kept : extract (.table (withoutUnknown (document top))) = .ok settings)
    (exist : ∃ path entry valid, Unknown (document top) path entry valid) :
    ∃ path entry valid location span, FirstUnknown (document top) path entry valid ∧
      ofText text = .error [.unknownKey entry.1 location valid span] ∧
      KeyReported text path entry.1 location span := by
  have distinct : ((document top).map Prod.fst).Nodup := by
    rw [document, SettingValue.keys_ofTomlEntries]
    exact Toml.nodup_keys_of_read? read
  obtain ⟨path, entry, valid, first, refused⟩ := exists_firstUnknown distinct kept exist
  refine ⟨path, entry, valid, _, _, first, ?_, keyReported text path entry.1⟩
  have reported := ofText_eq_error read refused
  rwa [first.unknown.origin_eq] at reported

/-- A text with two unknown keys in one section. -/
def typosText : String := "[logging]\nlevel = \"debug\"\n[output]\nwidth = 80\nprety = false\n"

/-- What stands in it. -/
def typosTop : List (String × Toml.Value) :=
  [("logging", .table [("level", .string "debug")]),
    ("output", .table [("width", .integer 80), ("prety", .boolean false)])]

theorem ofText_unknownKey_typosText :
    Toml.read? typosText = some typosTop ∧
      extract (.table (withoutUnknown (document typosTop))) = .ok { default with level := "debug" } ∧
      Unknown (document typosTop) ["output"] ("width", some inlineName, .signed 80) ["pretty"] ∧
      ∃ path entry valid location span, FirstUnknown (document typosTop) path entry valid ∧
        ofText typosText = .error [.unknownKey entry.1 location valid span] ∧
        KeyReported typosText path entry.1 location span := by
  have read : Toml.read? typosText = some typosTop := by cbv
  have kept : extract (.table (withoutUnknown (document typosTop))) =
      .ok { default with level := "debug" } := by cbv
  have table : ("output", some inlineName, SettingValue.table
      [("width", some inlineName, .signed 80), ("prety", some inlineName, .boolean false)]) ∈
        document typosTop := by
    simp [document, typosTop, SettingValue.ofTomlEntries, SettingValue.ofToml]
  have unknown : Unknown (document typosTop) ["output"]
      ("width", some inlineName, .signed 80) ["pretty"] :=
    .inSection (by decide) table List.mem_cons_self (by decide)
  exact ⟨read, kept, unknown, ofText_unknownKey read kept ⟨_, _, _, unknown⟩⟩

/-- An unknown key in a section and one at the root: what is named is not the table that has the
key. A carriage return moves the mark off the key. -/
theorem ofText_unknownKey_beside_table :
    (∃ top, Toml.read? "[logging]\nlevl = \"debug\"\n" = some top ∧
      extract (.table (withoutUnknown (document top))) = .ok default ∧
      Unknown (document top) ["logging"] ("levl", some inlineName, .string "debug") ["level"] ∧
      ofText "[logging]\nlevl = \"debug\"\n" =
        .error [.unknownKey "levl" "logging.levl" ["level"] (some ⟨inlineName, 10, 4⟩)] ∧
      "logging.levl" ≠ tableLocation ["logging"]) ∧
    (ofText "colour = true\n" =
        .error [.unknownKey "colour" "colour" ["logging", "sources", "output"] none] ∧
      "colour" ≠ tableLocation []) ∧
    ofText "[logging]\r\nlevl = \"debug\"\r\n" =
        .error [.unknownKey "levl" "logging.levl" ["level"] (some ⟨inlineName, 10, 4⟩)] ∧
      ¬ BytesAt "[logging]\r\nlevl = \"debug\"\r\n" 10 "levl" := by
  refine ⟨⟨[("logging", .table [("levl", .string "debug")])], by cbv, by cbv, ?_, by cbv, by decide⟩,
    ⟨by cbv, by decide⟩, by cbv, ?_⟩
  · exact .inSection (by decide) List.mem_cons_self List.mem_cons_self (by decide)
  · unfold BytesAt
    decide

end Settings

end PortalConfig
