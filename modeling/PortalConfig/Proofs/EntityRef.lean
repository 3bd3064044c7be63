import PortalConfig.Catalog.Row
import PortalConfig.Proofs.LetterCase

/-!
# Shortened references

A reference whose parts hold neither a colon nor a slash is read back from its written form
(`EntityRef.parse_text`). Leaving out what goes without saying keeps it such a reference and keeps
what it denotes (`EntityRef.sameEntity_shorten`), and nothing else is left out
(`EntityRef.shorten_eq_iff`). So the shown forms of two references are the same exactly when these
denote the same entity (`EntityRef.humanize_identifies`).
-/

namespace PortalConfig

/-! ## Taking a text apart -/

section Splitting

variable {separator : Char} {before : List Char}

theorem splitAtFirst_of_not_mem {text : List Char} (absent : separator ∉ text) :
    splitAtFirst separator text = none := by
  induction text with
  | nil => rfl
  | cons c rest ih =>
      obtain ⟨other, absentRest⟩ := not_or.1 (mt List.mem_cons.2 absent)
      rw [splitAtFirst, if_neg (Ne.symm other), ih absentRest]
      rfl

theorem splitAtFirst_append (absent : separator ∉ before) (after : List Char) :
    splitAtFirst separator (before ++ separator :: after) = some (before, after) := by
  induction before with
  | nil => exact if_pos rfl
  | cons c rest ih =>
      obtain ⟨other, absentRest⟩ := not_or.1 (mt List.mem_cons.2 absent)
      rw [List.cons_append, splitAtFirst, if_neg (Ne.symm other), ih absentRest]
      rfl

end Splitting

/-! ## Reading back -/

/-- A text without the marks that stand between the parts of a reference. -/
def EntityRef.IsPart (text : String) : Prop := ':' ∉ text.toList ∧ '/' ∉ text.toList

instance (text : String) : Decidable (EntityRef.IsPart text) :=
  inferInstanceAs (Decidable (':' ∉ text.toList ∧ '/' ∉ text.toList))

/-- All parts that are there are free of the marks between parts; each of them may be empty. -/
structure EntityRef.Regular (ref : EntityRef) : Prop where
  kind : ∀ kind ∈ ref.kind, IsPart kind
  namespaceName : ∀ namespaceName ∈ ref.namespaceName, IsPart namespaceName
  name : IsPart ref.name

/-- The written form without the kind. -/
def EntityRef.localText (ref : EntityRef) : String :=
  ((ref.namespaceName.map (· ++ "/")).getD "") ++ ref.name

section Parts

variable {ref other : EntityRef} {defaultKind : String}

theorem EntityRef.text_of_kind {kind : String} (own : ref.kind = some kind) :
    ref.text = kind ++ ":" ++ ref.localText := by
  obtain ⟨_, namespaceName, name⟩ := ref
  obtain rfl : _ = some kind := own
  cases namespaceName <;> exact String.append_assoc

theorem EntityRef.text_of_no_kind (missing : ref.kind = none) : ref.text = ref.localText := by
  obtain ⟨_, namespaceName, name⟩ := ref
  obtain rfl : _ = none := missing
  cases namespaceName <;> exact congrArg (· ++ name) String.empty_append

theorem EntityRef.Regular.not_mem_localText (regular : ref.Regular) :
    ':' ∉ ref.localText.toList := by
  rw [localText, String.toList_append, List.mem_append, not_or]
  refine ⟨?_, regular.name.1⟩
  cases own : ref.namespaceName with
  | none => exact List.not_mem_nil
  | some namespaceName =>
      have part := regular.namespaceName namespaceName own
      rw [Option.map_some, Option.getD_some, String.toList_append, List.mem_append, not_or]
      exact ⟨part.1, by decide⟩

theorem EntityRef.Regular.splitAtFirst_localText (regular : ref.Regular) :
    splitAtFirst '/' ref.localText.toList =
      ref.namespaceName.map fun namespaceName => (namespaceName.toList, ref.name.toList) := by
  cases own : ref.namespaceName with
  | none =>
      have written : ref.localText = ref.name := by
        rw [localText, own, Option.map_none, Option.getD_none, String.empty_append]
      rw [written]
      exact splitAtFirst_of_not_mem regular.name.2
  | some namespaceName =>
      have written : ref.localText.toList = namespaceName.toList ++ '/' :: ref.name.toList := by
        rw [localText, own, Option.map_some, Option.getD_some, String.toList_append,
          String.toList_append, List.append_assoc]
        rfl
      rw [written]
      exact splitAtFirst_append (regular.namespaceName namespaceName own).2 _

theorem EntityRef.Regular.splitAtFirst_text (regular : ref.Regular) :
    splitAtFirst ':' ref.text.toList =
      ref.kind.map fun kind => (kind.toList, ref.localText.toList) := by
  cases own : ref.kind with
  | none =>
      rw [text_of_no_kind own]
      exact splitAtFirst_of_not_mem regular.not_mem_localText
  | some kind =>
      have written : ref.text.toList = kind.toList ++ ':' :: ref.localText.toList := by
        rw [text_of_kind own, String.toList_append, String.toList_append, List.append_assoc]
        rfl
      rw [written]
      exact splitAtFirst_append (regular.kind kind own).1 _

theorem EntityRef.parse_text (regular : ref.Regular) : parse ref.text = ref := by
  have outer := regular.splitAtFirst_text
  have inner := regular.splitAtFirst_localText
  obtain ⟨kind, namespaceName, name⟩ := ref
  unfold parse
  cases kind with
  | none =>
      rw [outer, text_of_no_kind rfl]
      dsimp only [Option.map_none]
      rw [inner]
      cases namespaceName <;> simp [localText]
  | some kind =>
      rw [outer]
      dsimp only [Option.map_some]
      rw [inner]
      cases namespaceName <;> simp [localText]

/-! ## Shortening -/

/-- The references denote the same entity, where references without a kind are to be of the default
one: the kinds agree up to the case of ASCII letters, namespaces and names as they are. -/
structure EntityRef.SameEntity (defaultKind : String) (ref other : EntityRef) : Prop where
  kind : Text.SameUpToCase (ref.kind.getD defaultKind) (other.kind.getD defaultKind)
  namespaceName :
    ref.namespaceName.getD defaultNamespace = other.namespaceName.getD defaultNamespace
  name : ref.name = other.name

/-- Leaving out a default namespace does not change it, and no more is left out. -/
theorem EntityRef.filter_namespace_eq_iff {own others : Option String} :
    own.filter (· != defaultNamespace) = others.filter (· != defaultNamespace) ↔
      own.getD defaultNamespace = others.getD defaultNamespace := by
  have kept (given : Option String) : given.filter (· != defaultNamespace) =
      if given.getD defaultNamespace = defaultNamespace then none
      else some (given.getD defaultNamespace) := by
    cases given with
    | none => rfl
    | some name => by_cases same : name = defaultNamespace <;> simp [same]
  rw [kept, kept]
  split_ifs with first second second
  · rw [first, second]
    simp
  · simpa [first] using Ne.symm second
  · simpa [second] using first
  · simp

/-- Leaving out the expected kind and lower-casing the others tells kinds apart as far as they
differ in more than case. -/
theorem EntityRef.filter_kind_eq_iff {own others : Option String} :
    (own.filter fun kind => !Text.equalIgnoringCase kind defaultKind).map Text.asciiLower =
        (others.filter fun kind => !Text.equalIgnoringCase kind defaultKind).map Text.asciiLower ↔
      Text.SameUpToCase (own.getD defaultKind) (others.getD defaultKind) := by
  have kept (given : Option String) :
      (given.filter fun kind => !Text.equalIgnoringCase kind defaultKind).map Text.asciiLower =
        if Text.asciiLower (given.getD defaultKind) = Text.asciiLower defaultKind then none
        else some (Text.asciiLower (given.getD defaultKind)) := by
    cases given with
    | none => simp
    | some kind =>
        by_cases same : Text.asciiLower kind = Text.asciiLower defaultKind <;>
          simp [Option.filter, Text.equalIgnoringCase, same]
  rw [kept, kept, Text.sameUpToCase_iff_asciiLower_eq]
  split_ifs with first second second
  · rw [first, second]
    simp
  · simpa [first] using Ne.symm second
  · simpa [second] using first
  · simp

theorem EntityRef.shorten_eq_iff :
    ref.shorten defaultKind = other.shorten defaultKind ↔ SameEntity defaultKind ref other := by
  rw [shorten, shorten, mk.injEq, filter_kind_eq_iff, filter_namespace_eq_iff]
  constructor
  · rintro ⟨kind, namespaceName, name⟩
    exact ⟨kind, namespaceName, name⟩
  · rintro ⟨kind, namespaceName, name⟩
    exact ⟨kind, namespaceName, name⟩

theorem EntityRef.IsPart.asciiLower {text : String} (part : IsPart text) :
    IsPart (Text.asciiLower text) :=
  ⟨mt (Text.mem_asciiLower_iff rfl text).1 part.1, mt (Text.mem_asciiLower_iff rfl text).1 part.2⟩

theorem EntityRef.Regular.shorten (regular : ref.Regular) (defaultKind : String) :
    (ref.shorten defaultKind).Regular where
  kind kind own := by
    obtain ⟨given, kept, rfl⟩ := Option.map_eq_some_iff.1 own
    exact (regular.kind given (Option.filter_eq_some_iff.1 kept).1).asciiLower
  namespaceName namespaceName own :=
    regular.namespaceName namespaceName (Option.filter_eq_some_iff.1 own).1
  name := regular.name

/-- A shortened reference denotes what it denoted before. -/
theorem EntityRef.sameEntity_shorten (ref : EntityRef) (defaultKind : String) :
    SameEntity defaultKind (ref.shorten defaultKind) ref where
  kind := by
    change Text.SameUpToCase (Option.getD (Option.map Text.asciiLower (ref.kind.filter _)) _) _
    cases ref.kind with
    | none => exact .refl defaultKind
    | some kind =>
        by_cases same : Text.equalIgnoringCase kind defaultKind = true
        · rw [Option.filter_some, if_neg (by simp [same])]
          exact (Text.equalIgnoringCase_iff_sameUpToCase.1 same).symm
        · rw [Option.filter_some, if_pos (by simpa using same)]
          exact Text.sameUpToCase_asciiLower kind
  namespaceName := by
    change Option.getD (ref.namespaceName.filter _) _ = _
    cases ref.namespaceName with
    | none => rfl
    | some namespaceName =>
        by_cases same : namespaceName = defaultNamespace <;> simp [Option.filter, same]
  name := rfl

/-! ## The shown form -/

theorem EntityRef.humanize_text (regular : ref.Regular) (defaultKind : String) :
    humanize ref.text defaultKind = (ref.shorten defaultKind).text := by
  rw [humanize, parse_text regular]

theorem EntityRef.humanize_eq_iff (regular : ref.Regular) (regularOther : other.Regular) :
    humanize ref.text defaultKind = humanize other.text defaultKind ↔
      SameEntity defaultKind ref other := by
  rw [humanize_text regular, humanize_text regularOther, ← shorten_eq_iff]
  constructor
  · intro same
    rw [← parse_text (regular.shorten defaultKind), same,
      parse_text (regularOther.shorten defaultKind)]
  · exact congrArg text

/-- **Shown references still identify the entity.** Whatever the default kind, two references are
shown alike exactly when they denote the same entity, and a shown reference is shown as it is. -/
theorem EntityRef.humanize_identifies (regular : ref.Regular) (regularOther : other.Regular)
    (defaultKind : String) :
    (humanize ref.text defaultKind = humanize other.text defaultKind ↔
        SameEntity defaultKind ref other) ∧
      humanize (humanize ref.text defaultKind) defaultKind = humanize ref.text defaultKind := by
  refine ⟨humanize_eq_iff regular regularOther, ?_⟩
  calc humanize (humanize ref.text defaultKind) defaultKind
      = humanize (ref.shorten defaultKind).text defaultKind := by
        rw [humanize_text regular defaultKind]
    _ = humanize ref.text defaultKind :=
        (humanize_eq_iff (regular.shorten defaultKind) regular).2
          (sameEntity_shorten ref defaultKind)

end Parts

/-- A kind in capitals and the default namespace go without saying; an empty namespace does not. -/
theorem EntityRef.humanize_identifies_samples :
    let full : EntityRef := ⟨some "GROUP", some "default", "team"⟩
    let short : EntityRef := ⟨none, none, "team"⟩
    let foreign : EntityRef := ⟨some "User", some "", "team"⟩
    full.Regular ∧ short.Regular ∧ foreign.Regular ∧
      humanize full.text "group" = humanize short.text "group" ∧
      humanize full.text "group" ≠ humanize foreign.text "group" ∧
      humanize (humanize foreign.text "group") "group" = humanize foreign.text "group" := by
  intro full short foreign
  have regularFull : full.Regular := ⟨by decide, by decide, by decide⟩
  have regularShort : short.Regular := ⟨by decide, by decide, by decide⟩
  have regularForeign : foreign.Regular := ⟨by decide, by decide, by decide⟩
  refine ⟨regularFull, regularShort, regularForeign, ?_, ?_, ?_⟩
  · exact (humanize_identifies regularFull regularShort "group").1.2 ⟨by decide, rfl, rfl⟩
  · intro same
    have entity := (humanize_identifies regularFull regularForeign "group").1.1 same
    exact absurd entity.kind (by decide)
  · exact (humanize_identifies regularForeign regularShort "group").2

/-- A colon inside of the name is taken for the end of a kind once the kind is gone. -/
example : EntityRef.humanize "group:group:team" "group" = "group:team" ∧
    EntityRef.humanize "group:team" "group" = "team" := by decide

end PortalConfig
