import PortalConfig.Proofs.Visibility.Meaning

/-!
# Printed conditions

What the registry prints of an `if` block is configuration again. `Condition.reread` is what is read
from the configuration form of a condition. Every condition that has been read from a document comes
out of it as it went in, with one exception (`Condition.ComparesWithEmpty`): a list of the empty
name alone is printed as that name, and an empty string does not count as given.
-/

namespace PortalConfig

/-- The condition that is read from the configuration form of another. -/
def Condition.reread (condition : Condition) : Condition := ofDoc condition.encode

/-- The block whose atoms are read from the configuration forms of those of another. -/
def ConditionBlock.reread (block : ConditionBlock) : ConditionBlock where
  allOf := block.allOf.map (·.map Condition.reread)
  anyOf := block.anyOf.map (·.map Condition.reread)
  oneOf := block.oneOf.map (·.map Condition.reread)

/-- Compares with the empty name and with no other. -/
def Condition.ComparesWithEmpty : Condition → Prop
  | .isKind names | .isType names => names = [""]
  | _ => False

/-- What documents are read as. -/
inductive Condition.Readable : Condition → Prop
  | isKind (kinds : List String) : Readable (.isKind kinds)
  | isType (types : List String) : Readable (.isType types)
  | annotated {key : String} : key ≠ "" → Readable (.annotated key)
  | unknown {doc : Doc} : ofDoc doc = .unknown doc → Readable (.unknown doc)

open Visibility

/-! ## Conditions -/

theorem Condition.readable_of_unread {doc : Doc} (unread : ofDoc doc = .unknown doc) :
    (ofDoc doc).Readable := by
  rw [unread]
  exact .unknown unread

theorem Condition.readable_ofDoc (doc : Doc) : (ofDoc doc).Readable := by
  cases bound : doc.object?.bind binding? with
  | none =>
      refine readable_of_unread ?_
      rw [ofDoc, bound]
      rfl
  | some binding =>
      obtain ⟨key, value⟩ := binding
      have read : ofDoc doc = (ofBinding? key value).getD (.unknown doc) := by
        rw [ofDoc, bound]
        rfl
      cases made : ofBinding? key value with
      | none =>
          refine readable_of_unread ?_
          rw [read, made, Option.getD_none]
      | some condition =>
          rw [read, made, Option.getD_some]
          obtain ⟨members, -, first⟩ := Option.bind_eq_some_iff.1 bound
          obtain ⟨mem, -, given⟩ := (binding?_eq_some_iff.1 first).holds
          simp only [keys, List.mem_cons, List.not_mem_nil, or_false] at mem
          rcases mem with rfl | rfl | rfl
          · obtain ⟨kinds, -, rfl⟩ := Option.map_eq_some_iff.1 made
            exact .isKind kinds
          · obtain ⟨types, -, rfl⟩ := Option.map_eq_some_iff.1 made
            exact .isType types
          · obtain ⟨name, text, rfl⟩ := Option.map_eq_some_iff.1 made
            obtain rfl := Doc.string?_eq_some_iff.1 text
            exact .annotated fun empty => given.2.2.1 (congrArg Doc.string empty)

/-- An object with a single key of a condition. -/
theorem Condition.ofDoc_single {key : String} {value : Doc} (mem : key ∈ keys) :
    ofDoc (.object [(key, value)]) =
      (if isGiven value then ofBinding? key value else none).getD
        (.unknown (.object [(key, value)])) := by
  have bound : binding? [(key, value)] = if isGiven value then some (key, value) else none := by
    simp only [keys, List.mem_cons, List.not_mem_nil, or_false] at mem
    rcases mem with rfl | rfl | rfl <;>
      cases given : isGiven value <;>
        simp [binding?, keys, Members.get?, given, Option.filter]
  change ((binding? [(key, value)]).bind _).getD _ = _
  rw [bound]
  split <;> rfl

theorem Condition.isGiven_encodeNames {names : List String} :
    isGiven (encodeNames names) = true ↔ names ≠ [""] := by
  match names with
  | [] => simp [encodeNames, Doc.strings, isGiven]
  | [name] => simp [encodeNames, isGiven]
  | first :: second :: rest => simp [encodeNames, Doc.strings, isGiven]

theorem Condition.names?_encodeNames {names : List String} (more : names ≠ [""]) :
    names? (encodeNames names) = some names := by
  match names with
  | [] => rfl
  | [name] =>
      have nonempty : name ≠ "" := fun empty => more (congrArg ([·]) empty)
      exact if_neg nonempty
  | first :: second :: rest => exact Doc.mapM_string?_eq_some_iff.2 rfl

/-- Printed under its key, a list of names is read again unless it holds the empty name alone. -/
theorem Condition.ofDoc_names {key : String} {names : List String}
    {make : List String → Condition} (mem : key ∈ keys)
    (binds : ∀ value, ofBinding? key value = (names? value).map make) :
    ofDoc (.object [(key, encodeNames names)]) =
      if names = [""] then .unknown (.object [(key, .string "")]) else make names := by
  rw [ofDoc_single mem]
  by_cases alone : names = [""]
  · subst alone
    rfl
  · rw [if_pos (isGiven_encodeNames.2 alone), binds, names?_encodeNames alone, if_neg alone]
    rfl

theorem Condition.reread_isKind (kinds : List String) :
    (isKind kinds).reread =
      if kinds = [""] then .unknown (.object [("isKind", .string "")]) else .isKind kinds :=
  ofDoc_names (by simp [keys]) fun _ => rfl

theorem Condition.reread_isType (types : List String) :
    (isType types).reread =
      if types = [""] then .unknown (.object [("isType", .string "")]) else .isType types :=
  ofDoc_names (by simp [keys]) fun _ => rfl

theorem Condition.reread_annotated {key : String} (nonempty : key ≠ "") :
    (annotated key).reread = .annotated key := by
  have given : isGiven (.string key) = true := bne_iff_ne.2 nonempty
  change ofDoc (.object [("hasAnnotation", .string key)]) = _
  rw [ofDoc_single (by simp [keys]), if_pos given]
  rfl

theorem Condition.Readable.reread_eq_self_iff {condition : Condition}
    (readable : condition.Readable) :
    condition.reread = condition ↔ ¬ condition.ComparesWithEmpty := by
  cases readable with
  | isKind kinds =>
      rw [reread_isKind, ite_eq_right_iff]
      exact imp_congr_right fun _ => iff_of_false nofun id
  | isType types =>
      rw [reread_isType, ite_eq_right_iff]
      exact imp_congr_right fun _ => iff_of_false nofun id
  | annotated nonempty => exact iff_of_true (reread_annotated nonempty) id
  | unknown unread => exact iff_of_true unread id

/-! ## What printed conditions mean -/

theorem Text.equalIgnoringCase_empty {name : String} (nonempty : name ≠ "") :
    Text.equalIgnoringCase "" name = false := by
  rw [← Bool.not_eq_true, Text.equalIgnoringCase_iff]
  intro same
  have empty : name.toList = [] := by
    simpa [Text.asciiLower] using congrArg String.toList same
  exact nonempty (String.toList_eq_nil_iff.1 empty)

theorem Atom.matchesAny_empty {actual : Option String} (nonempty : actual ≠ some "") :
    matchesAny actual [""] = false := by
  cases actual with
  | none => rfl
  | some name =>
      have differs : name ≠ "" := fun eq => nonempty (congrArg some eq)
      simp [matchesAny, Text.equalIgnoringCase_empty differs]

/-- Entities without an empty kind or type are told apart as before. -/
theorem Atom.ofCondition_reread {condition : Condition} (readable : condition.Readable)
    {entity : Entity} (kind : entity.kind? ≠ some "") (type : entity.specType? ≠ some "")
    (capabilities : Option Capabilities) :
    ofCondition condition.reread entity capabilities =
      ofCondition condition entity capabilities := by
  by_cases compares : condition.ComparesWithEmpty
  · cases condition with
    | isKind kinds =>
        obtain rfl : kinds = [""] := compares
        exact (matchesAny_empty kind).symm
    | isType types =>
        obtain rfl : types = [""] := compares
        exact (matchesAny_empty type).symm
    | callable _ | annotated _ | unknown _ => exact compares.elim
  · rw [readable.reread_eq_self_iff.2 compares]

/-! ## Blocks -/

/-- The form in which a list of atoms is printed. -/
def ConditionBlock.printed (atoms : List Condition) : Doc := .array (atoms.map Condition.encode)

/-- A list that is not there is not printed, and read as missing. -/
theorem ConditionBlock.decodeOptional_printed (atoms : Option (List Condition)) :
    Record.decodeOptional atoms? (atoms.map printed) =
      some (atoms.map (·.map Condition.reread)) := by
  cases atoms with
  | none => rfl
  | some atoms =>
      change some (some ((atoms.map Condition.encode).map Condition.ofDoc)) = _
      rw [List.map_map]
      rfl

theorem ConditionBlock.get?_encode (block : ConditionBlock) :
    block.encode.get? "allOf" = block.allOf.map printed ∧
      block.encode.get? "anyOf" = block.anyOf.map printed ∧
      block.encode.get? "oneOf" = block.oneOf.map printed := by
  obtain ⟨allOf, anyOf, oneOf⟩ := block
  cases allOf <;> cases anyOf <;> cases oneOf <;> exact ⟨rfl, rfl, rfl⟩

theorem ConditionBlock.decode_encode (block : ConditionBlock) :
    decode block.encode = some block.reread := by
  obtain ⟨allOf, anyOf, oneOf⟩ := block.get?_encode
  obtain ⟨members, written⟩ : ∃ members, block.encode = .object members := ⟨_, rfl⟩
  rw [written] at allOf anyOf oneOf ⊢
  change Members.get? members _ = _ at allOf anyOf oneOf
  rw [decode, Doc.record_eq, Record.ofDoc?, Option.bind_some, Record.run_eq_some_iff]
  refine ⟨.named members, ?_, rfl⟩
  simp only [Record.optional_bind, Record.next, Record.rest, Record.pure_run, allOf, anyOf, oneOf,
    decodeOptional_printed, Option.bind_some]
  rfl

theorem map_eq_self_iff {α : Type} {f : α → α} {items : List α} :
    items.map f = items ↔ ∀ item ∈ items, f item = item := by
  induction items with
  | nil => simp
  | cons item rest ih => simp [ih]

theorem ConditionBlock.reread_eq_self_iff {block : ConditionBlock} :
    block.reread = block ↔ ∀ condition ∈ block.conditions, condition.reread = condition := by
  obtain ⟨allOf, anyOf, oneOf⟩ := block
  have list (atoms : Option (List Condition)) : atoms.map (·.map Condition.reread) = atoms ↔
      ∀ condition ∈ atoms.getD [], condition.reread = condition := by
    cases atoms with
    | none => simp
    | some atoms => simp [map_eq_self_iff]
  simp only [reread, mk.injEq, list, conditions, List.forall_mem_append, and_assoc]

theorem ConditionBlock.readable_of_decode {doc : Doc} {block : ConditionBlock}
    (decoded : decode doc = some block) : ∀ condition ∈ block.conditions, condition.Readable := by
  have list {given : Option Doc} {atoms : Option (List Condition)}
      (read : Record.decodeOptional atoms? given = some atoms) :
      ∀ condition ∈ atoms.getD [], condition.Readable := by
    rcases decodeOptional_atoms? read with ⟨rfl, -⟩ | ⟨items, -, rfl⟩
    · exact nofun
    · intro condition mem
      obtain ⟨atom, -, rfl⟩ := List.mem_map.1 mem
      exact Condition.readable_ofDoc atom
  rw [decode, Doc.record_eq, Option.bind_eq_some_iff] at decoded
  obtain ⟨record, -, run⟩ := decoded
  obtain ⟨left, ran, -⟩ := Record.run_eq_some_iff.1 run
  simp only [Record.optional_bind, Option.bind_eq_some_iff, Record.pure_run] at ran
  obtain ⟨allOf, all, anyOf, any, oneOf, one, eq⟩ := ran
  cases eq
  simp only [conditions, List.forall_mem_append]
  exact ⟨⟨list all, list any⟩, list one⟩

/-- What the conditions of a list say of an entity. -/
def Condition.verdicts (entity : Entity) (capabilities : Option Capabilities)
    (conditions : List Condition) : List Bool :=
  conditions.map (Atom.ofCondition · entity capabilities)

/-- What a block says whose three lists have these verdicts: the first list that is there
decides. -/
def Predicate.decided (allOf anyOf oneOf : Option (List Bool)) : Bool :=
  allOf.elim
    (anyOf.elim
      (oneOf.elim true fun verdicts => (verdicts.filter id).length == 1)
      fun verdicts => verdicts.any id)
    fun verdicts => verdicts.all id

/-- A block is decided by what the conditions of its lists say. -/
theorem Predicate.evaluate_compile_eq_decided (block : ConditionBlock) (entity : Entity)
    (capabilities : Option Capabilities) :
    (compile (some block)).evaluate entity capabilities =
      decided (block.allOf.map (Condition.verdicts entity capabilities))
        (block.anyOf.map (Condition.verdicts entity capabilities))
        (block.oneOf.map (Condition.verdicts entity capabilities)) := by
  obtain ⟨allOf, anyOf, oneOf⟩ := block
  cases allOf with
  | some atoms =>
      change (atoms.map Atom.ofCondition).all _ = (Condition.verdicts _ _ atoms).all id
      rw [Condition.verdicts, List.all_map, List.all_map]
      rfl
  | none =>
      cases anyOf with
      | some atoms =>
          change (atoms.map Atom.ofCondition).any _ = (Condition.verdicts _ _ atoms).any id
          rw [Condition.verdicts, List.any_map, List.any_map]
          rfl
      | none =>
          cases oneOf with
          | some atoms =>
              change (((atoms.map Atom.ofCondition).filter _).length == 1) =
                (((Condition.verdicts _ _ atoms).filter id).length == 1)
              rw [Condition.verdicts, List.filter_map, List.filter_map, List.length_map,
                List.length_map]
              rfl
          | none => rfl

theorem Predicate.evaluate_reread {block : ConditionBlock}
    (readable : ∀ condition ∈ block.conditions, condition.Readable) {entity : Entity}
    (kind : entity.kind? ≠ some "") (type : entity.specType? ≠ some "")
    (capabilities : Option Capabilities) :
    (compile (some block.reread)).evaluate entity capabilities =
      (compile (some block)).evaluate entity capabilities := by
  have verdicts (atoms : Option (List Condition))
      (read : ∀ condition ∈ atoms.getD [], condition.Readable) :
      (atoms.map (·.map Condition.reread)).map (Condition.verdicts entity capabilities) =
        atoms.map (Condition.verdicts entity capabilities) := by
    cases atoms with
    | none => rfl
    | some atoms =>
        simp only [Option.map_some, Condition.verdicts, List.map_map]
        refine congrArg some (List.map_congr_left fun condition mem => ?_)
        exact Atom.ofCondition_reread (read condition mem) kind type capabilities
  simp only [ConditionBlock.conditions, List.forall_mem_append] at readable
  obtain ⟨⟨all, any⟩, one⟩ := readable
  rw [evaluate_compile_eq_decided, evaluate_compile_eq_decided]
  exact congr (congrArg₂ decided (verdicts _ all) (verdicts _ any)) (verdicts _ one)

/-- **What is printed is read again**, but for the conditions that compare with the empty name
alone. Whether a document is read as a condition or as a block, it survives exactly when there is
no such condition; and entities without an empty kind or type do not tell a block from the printed
one at all. -/
theorem Condition.reread_ofDoc (doc : Doc) :
    ((ofDoc doc).reread = ofDoc doc ↔ ¬ (ofDoc doc).ComparesWithEmpty) ∧
      ∀ block, ConditionBlock.decode doc = some block →
        ConditionBlock.decode block.encode = some block.reread ∧
        (block.reread = block ↔
          ∀ condition ∈ block.conditions, ¬ condition.ComparesWithEmpty) ∧
        ∀ entity : Entity, entity.kind? ≠ some "" → entity.specType? ≠ some "" →
          ∀ capabilities, (Predicate.compile (some block.reread)).evaluate entity capabilities =
            (Predicate.compile (some block)).evaluate entity capabilities := by
  refine ⟨(readable_ofDoc doc).reread_eq_self_iff, fun block decoded => ?_⟩
  have readable := ConditionBlock.readable_of_decode decoded
  refine ⟨block.decode_encode, ?_, fun entity kind type => ?_⟩
  · rw [ConditionBlock.reread_eq_self_iff]
    exact forall₂_congr fun condition mem => (readable condition mem).reread_eq_self_iff
  · exact Predicate.evaluate_reread readable kind type

/-- One kind in a list, an annotation, two kinds and an atom that is not understood. -/
def ConditionBlock.writtenSample : Doc :=
  .object [("allOf", .array
    [.object [("isKind", .strings ["Component"])], .object [("hasAnnotation", .string "docs")],
      .object [("isKind", .strings ["API", ""])], .int 7])]

def ConditionBlock.readSample : ConditionBlock where
  allOf := some [.isKind ["Component"], .annotated "docs", .isKind ["API", ""], .unknown (.int 7)]
  anyOf := none
  oneOf := none

theorem Condition.reread_ofDoc_samples :
    ConditionBlock.decode ConditionBlock.writtenSample = some ConditionBlock.readSample ∧
      (∀ condition ∈ ConditionBlock.readSample.conditions, ¬ condition.ComparesWithEmpty) ∧
      ConditionBlock.readSample.encode = .object [("allOf", .array
        [.object [("isKind", .string "Component")], .object [("hasAnnotation", .string "docs")],
          .object [("isKind", .strings ["API", ""])], .int 7])] ∧
      ConditionBlock.readSample.reread = ConditionBlock.readSample ∧
      (Predicate.compile (some ConditionBlock.readSample.reread)).evaluate
          ⟨.object [("kind", .string "component")]⟩ none =
        (Predicate.compile (some ConditionBlock.readSample)).evaluate
          ⟨.object [("kind", .string "component")]⟩ none := by
  have decoded : ConditionBlock.decode ConditionBlock.writtenSample =
      some ConditionBlock.readSample := rfl
  have kept : ∀ condition ∈ ConditionBlock.readSample.conditions,
      ¬ condition.ComparesWithEmpty := by
    simp [ConditionBlock.readSample, ConditionBlock.conditions, ComparesWithEmpty]
  obtain ⟨-, survives, judged⟩ := (reread_ofDoc ConditionBlock.writtenSample).2 _ decoded
  refine ⟨decoded, kept, rfl, survives.2 kept, judged _ ?_ ?_ none⟩
  · change some "component" ≠ some ""
    decide
  · exact nofun

/-- The empty name alone is printed as a value that does not count as given: the condition that
held of an entity of an empty kind never holds again. -/
theorem Condition.reread_isKind_empty :
    ofDoc (.object [("isKind", .strings [""])]) = .isKind [""] ∧
      (isKind [""]).encode = .object [("isKind", .string "")] ∧
      (isKind [""]).reread = .unknown (.object [("isKind", .string "")]) ∧
      (isKind [""]).reread ≠ .isKind [""] ∧
      Atom.ofCondition (.isKind [""]) ⟨.object [("kind", .string "")]⟩ none = true ∧
      Atom.ofCondition (isKind [""]).reread ⟨.object [("kind", .string "")]⟩ none = false :=
  ⟨rfl, rfl, rfl, nofun, rfl, rfl⟩

end PortalConfig
