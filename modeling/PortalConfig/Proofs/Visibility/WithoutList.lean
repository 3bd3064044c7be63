import PortalConfig.Proofs.Visibility.Shown

/-!
# `if` blocks without a list

An `if` block in which none of the keys `allOf`, `anyOf` and `oneOf` occurs says nothing that is
understood. What becomes of its mount point depends on how the block is written. A truth value, a
number or a string takes the mount point with it. A map restricts nothing, so that under a misspelt
key every entity is shown the mount point. A list holds the three lists by position, in the order of
their keys. `Shell.visibleMountPoints_withoutList` states this of the registry of the mount point
alone, which is what the mount point adds to every registry.
-/

namespace PortalConfig

open Visibility

/-! ## One mount point -/

/-- The shell for a plugin that lists one mount point and declares nothing else. -/
def Shell.ofElement (scope : String) (element : Doc) : Shell :=
  ofRegistry
    (Frontend.ofDoc (.object [(scope, .object [("mountPoints", .array [element])])])).resolve

/-- What a listed mount point shows as under an id, for an entity: its rendered form, if it decodes,
stands under the id, and its predicate accepts the entity. -/
def Visibility.accepted? (id : String) (entity : Entity) (capabilities : Option Capabilities)
    (scope : String) (element : Doc) : Option RenderedMountPoint :=
  (((MountPoint.decode element).filter (·.mountPoint = id)).map fun entry =>
    RenderedMountPoint.ofEntry (entry.resolve scope)).filter (·.isVisible entity capabilities)

section

variable (id : String) (entity : Entity) (capabilities : Option Capabilities)

theorem Shell.visibleMountPoints_eq_filterMap (frontend : Keyed Doc) :
    (ofRegistry (Frontend.ofDoc (.object frontend.members)).resolve).visibleMountPoints id entity
        capabilities =
      frontend.members.flatMap fun member =>
        (member.2.listed "mountPoints").filterMap
          (accepted? id entity capabilities member.1) := by
  rw [visibleMountPoints, mountPoints_ofRegistry, Frontend.mountPoints_resolve_ofDoc,
    List.filter_flatMap, List.map_flatMap, List.filter_flatMap]
  refine List.flatMap_congr fun member _ => ?_
  simp only [List.map_filterMap, List.filter_filterMap]
  refine List.filterMap_congr fun element _ => ?_
  unfold accepted?
  cases MountPoint.decode element with
  | none => rfl
  | some entry =>
      have id_eq : (entry.resolve member.1).mountPoint = entry.mountPoint := rfl
      rw [Option.map_some, Option.filter_some, Option.filter_some, id_eq]
      split <;> rfl

theorem Shell.visibleMountPoints_ofElement (scope : String) (element : Doc) :
    (ofElement scope element).visibleMountPoints id entity capabilities =
      (accepted? id entity capabilities scope element).toList := by
  have alone := visibleMountPoints_eq_filterMap id entity capabilities
    ⟨[(scope, .object [("mountPoints", .array [element])])], List.nodup_singleton scope⟩
  have elements : (Doc.object [("mountPoints", .array [element])]).listed "mountPoints" =
      [element] := rfl
  refine alone.trans ?_
  rw [List.flatMap_cons, List.flatMap_nil, List.append_nil, elements,
    List.filterMap_eq_flatMap_toList, List.flatMap_cons, List.flatMap_nil, List.append_nil]

/-- A shell shows what the shells of the single mount points show, in their order. -/
theorem Shell.visibleMountPoints_eq_flatMap_ofElement (frontend : Keyed Doc) :
    (ofRegistry (Frontend.ofDoc (.object frontend.members)).resolve).visibleMountPoints id entity
        capabilities =
      frontend.members.flatMap fun member =>
        (member.2.listed "mountPoints").flatMap fun element =>
          (ofElement member.1 element).visibleMountPoints id entity capabilities := by
  rw [visibleMountPoints_eq_filterMap]
  simp only [visibleMountPoints_ofElement, List.filterMap_eq_flatMap_toList]

end

/-! ## Blocks by the way they are written -/

/-- Something is given, and none of the keys of the lists is among its keys. -/
structure Visibility.WithoutList (block : Doc) : Prop where
  notNull : block ≠ .null
  notEmpty : block ≠ .object []
  noList : ∀ key ∈ ["allOf", "anyOf", "oneOf"], block.get? key = none

/-- The map that has the items of a list under the keys of the lists, in their order. -/
def Visibility.byKey (items : List Doc) : Doc := .object (["allOf", "anyOf", "oneOf"].zip items)

theorem ConditionBlock.decode_eq (doc : Doc) :
    decode doc = (Record.ofDoc? doc).bind fun record =>
      (Record.decodeOptional atoms? (record.next "allOf")).bind fun allOf =>
        (Record.decodeOptional atoms? (record.rest.next "anyOf")).bind fun anyOf =>
          (Record.decodeOptional atoms? (record.rest.rest.next "oneOf")).bind fun oneOf =>
            if record.rest.rest.rest.isDone then some ⟨allOf, anyOf, oneOf⟩ else none := by
  rw [decode, Doc.record_eq]
  refine congrArg (Record.ofDoc? doc).bind (funext fun record => ?_)
  simp only [Record.run_eq_bind, Record.optional_bind, Record.pure_run, Option.bind_assoc,
    Option.bind_some]

/-- A block that is written as a list has its lists by position, and no more than these. -/
theorem ConditionBlock.decode_array (items : List Doc) :
    decode (.array items) = if items.length ≤ 3 then decode (byKey items) else none := by
  rw [decode_eq, decode_eq]
  rcases items with _ | ⟨all, _ | ⟨any, _ | ⟨one, _ | ⟨surplus, rest⟩⟩⟩⟩
  · rfl
  · rfl
  · rfl
  · rfl
  · have left : (Record.listed (all :: any :: one :: surplus :: rest)).rest.rest.rest.isDone =
        false := rfl
    rw [if_neg (by simp), Record.ofDoc?, Option.bind_some, left]
    simp only [Bool.false_eq_true, if_false, Option.bind_fun_none]

/-- A truth value, a number or a string is no block. -/
theorem ConditionBlock.decode_scalar {doc : Doc} (noMap : ∀ members, doc ≠ .object members)
    (noList : ∀ items, doc ≠ .array items) : decode doc = none := by
  cases doc with
  | object members => exact (noMap members rfl).elim
  | array items => exact (noList items rfl).elim
  | null | bool _ | number _ | string _ => rfl

/-! ## What shows -/

/-- A listed mount point registers one under the id, with this rendered form. -/
def Visibility.RegisteredAs (scope : String) (element : Doc) (id : String)
    (mountPoint : RenderedMountPoint) : Prop :=
  ∃ entry, MountPoint.decode element = some entry ∧ entry.mountPoint = id ∧
    mountPoint = .ofEntry (entry.resolve scope)

section

variable {id scope : String} {entity : Entity} {capabilities : Option Capabilities}
  {element block : Doc}

/-- What a given `if` is read to is what its block decodes to. -/
theorem MountPoint.decode_condition {entry : MountPoint}
    (decoded : MountPoint.decode element = some entry)
    (found : conditionDoc? element = some block) (notNull : block ≠ .null) :
    ∃ read, ConditionBlock.decode block = some read ∧
      entry.config.bind (·.condition) = some read := by
  have condition := condition_of_decode decoded
  rw [found] at condition
  rcases Record.decodeOptional_eq_some_iff.1 condition with
    ⟨-, missing⟩ | ⟨doc, given, -, read, decodedBlock, same⟩
  · exact (notNull (missing block rfl)).elim
  · obtain rfl := Option.some.inj given
    exact ⟨read, decodedBlock, same⟩

/-- A block that is read like a map decides as the map does. -/
theorem Visibility.accepted?_eq_some_iff_of_decode {members : Members Doc}
    (found : conditionDoc? element = some block) (notNull : block ≠ .null)
    (alike : ConditionBlock.decode block = ConditionBlock.decode (.object members))
    {mountPoint : RenderedMountPoint} :
    accepted? id entity capabilities scope element = some mountPoint ↔
      BlockHolds entity (some (.object members)) ∧
        RegisteredAs scope element id mountPoint := by
  have visible : ∀ entry, MountPoint.decode element = some entry →
      ((RenderedMountPoint.ofEntry (entry.resolve scope)).isVisible entity capabilities = true ↔
        BlockHolds entity (some (.object members))) := by
    intro entry decoded
    obtain ⟨read, decodedBlock, condition⟩ := MountPoint.decode_condition decoded found notNull
    have given : Record.decodeOptional ConditionBlock.decode (some (.object members)) =
        some (entry.config.bind (·.condition)) := by
      rw [condition]
      exact congrArg (Option.map some) (alike.symm.trans decodedBlock)
    exact Predicate.evaluate_compile_iff given fun doc same =>
      Or.inr ⟨members, (Option.some.inj same).symm⟩
  unfold accepted? RegisteredAs
  rw [Option.filter_eq_some_iff]
  constructor
  · rintro ⟨formed, shows⟩
    obtain ⟨entry, kept, rfl⟩ := Option.map_eq_some_iff.1 formed
    obtain ⟨decoded, under⟩ := Option.filter_eq_some_iff.1 kept
    exact ⟨(visible entry decoded).1 shows, entry, decoded, of_decide_eq_true under, rfl⟩
  · rintro ⟨holds, entry, decoded, under, rfl⟩
    exact ⟨Option.map_eq_some_iff.2
      ⟨entry, Option.filter_eq_some_iff.2 ⟨decoded, decide_eq_true under⟩, rfl⟩,
      (visible entry decoded).2 holds⟩

/-- A block that cannot be read takes its mount point with it. -/
theorem Visibility.accepted?_of_decode_eq_none (found : conditionDoc? element = some block)
    (notNull : block ≠ .null) (refused : ConditionBlock.decode block = none) :
    accepted? id entity capabilities scope element = none := by
  unfold accepted?
  cases decoded : MountPoint.decode element with
  | none => rfl
  | some entry =>
      obtain ⟨read, decodedBlock, -⟩ := MountPoint.decode_condition decoded found notNull
      cases refused.symm.trans decodedBlock

end

/-- **What an `if` block without a list does.** A truth value, a number or a string hides its mount
point from every entity. A map restricts nothing: every entity is shown the mount point. A list
decides as the map that has its items under the keys of the lists, and hides the mount point when it
has more of them. This is all that the mount point adds to what any shell shows. -/
theorem Shell.visibleMountPoints_withoutList {element block : Doc}
    (found : conditionDoc? element = some block) (bare : WithoutList block)
    (scope id : String) (entity : Entity) (capabilities : Option Capabilities) :
    ((∀ members, block ≠ .object members) → (∀ items, block ≠ .array items) →
        (ofElement scope element).visibleMountPoints id entity capabilities = []) ∧
      (∀ members, block = .object members → ∀ mountPoint,
        mountPoint ∈ (ofElement scope element).visibleMountPoints id entity capabilities ↔
          RegisteredAs scope element id mountPoint) ∧
      (∀ items, block = .array items → ∀ mountPoint,
        mountPoint ∈ (ofElement scope element).visibleMountPoints id entity capabilities ↔
          items.length ≤ 3 ∧ BlockHolds entity (some (byKey items)) ∧
            RegisteredAs scope element id mountPoint) ∧
      ∀ frontend : Keyed Doc,
        (ofRegistry (Frontend.ofDoc (.object frontend.members)).resolve).visibleMountPoints id
            entity capabilities =
          frontend.members.flatMap fun member =>
            (member.2.listed "mountPoints").flatMap fun listed =>
              (ofElement member.1 listed).visibleMountPoints id entity capabilities := by
  refine ⟨?scalar, ?map, ?list, visibleMountPoints_eq_flatMap_ofElement id entity capabilities⟩
  case scalar =>
    intro noMap noList
    rw [visibleMountPoints_ofElement, accepted?_of_decode_eq_none found bare.notNull
      (ConditionBlock.decode_scalar noMap noList), Option.toList_none]
  case map =>
    rintro members rfl mountPoint
    have holds : BlockHolds entity (some (.object members)) := by
      refine .unconditional fun key mem value given => ?_
      cases (bare.noList key mem).symm.trans given
    rw [visibleMountPoints_ofElement, Option.mem_toList,
      accepted?_eq_some_iff_of_decode found bare.notNull rfl]
    exact and_iff_right holds
  case list =>
    rintro items rfl mountPoint
    rw [visibleMountPoints_ofElement, Option.mem_toList]
    have read := ConditionBlock.decode_array items
    by_cases few : items.length ≤ 3
    · rw [if_pos few] at read
      rw [accepted?_eq_some_iff_of_decode found bare.notNull read]
      exact (and_iff_right few).symm
    · rw [if_neg few] at read
      rw [accepted?_of_decode_eq_none found bare.notNull read]
      exact iff_of_false nofun fun holds => few holds.1

/-- A mount point with this `if`. -/
def Visibility.withBlock (block : Doc) : Doc :=
  .object [("mountPoint", .string "tabs"), ("config", .object [("if", block)])]

theorem Visibility.conditionDoc?_withBlock (block : Doc) :
    conditionDoc? (withBlock block) = some block := rfl

/-- A block with a misspelt key, which was meant to be false of every component. -/
def Visibility.misspelt : Doc :=
  .object [("allof", .array [.object [("isKind", .string "api")]])]

theorem Visibility.withoutList_misspelt : WithoutList misspelt := ⟨nofun, nofun, by decide⟩

theorem Visibility.withoutList_array (items : List Doc) : WithoutList (.array items) :=
  ⟨nofun, nofun, fun _ _ => rfl⟩

theorem Shell.visibleMountPoints_withoutList_samples :
    WithoutList (.bool false) ∧
      (ofElement "acme.docs" (withBlock (.bool false))).visibleMountPoints "tabs" sampleEntity
        none = [] ∧
      (∃ mountPoint, mountPoint ∈
        (ofElement "acme.docs" (withBlock misspelt)).visibleMountPoints "tabs" sampleEntity none) ∧
      (∃ mountPoint, mountPoint ∈
        (ofElement "acme.docs" (withBlock (.array [.null]))).visibleMountPoints "tabs" sampleEntity
          none) ∧
      ¬ ∃ mountPoint, mountPoint ∈
        (ofElement "acme.docs" (withBlock (.array [.null, .null, .null, .null]))).visibleMountPoints
          "tabs" sampleEntity none := by
  have truth : WithoutList (.bool false) := ⟨nofun, nofun, fun _ _ => rfl⟩
  have shown := fun block bare => visibleMountPoints_withoutList (conditionDoc?_withBlock block) bare
    "acme.docs" "tabs" sampleEntity none
  obtain ⟨hidden, -⟩ := shown _ truth
  obtain ⟨-, unrestricted, -⟩ := shown _ withoutList_misspelt
  have byPosition := fun items => (shown _ (withoutList_array items)).2.2.1 items rfl
  have noLists : BlockHolds sampleEntity (some (byKey [.null])) := by
    refine .unconditional ?_
    simp [Members.get?]
  refine ⟨truth, hidden nofun nofun, ⟨_, (unrestricted _ rfl _).2 ⟨_, rfl, rfl, rfl⟩⟩,
    ⟨_, (byPosition _ _).2 ⟨by decide, noLists, _, rfl, rfl, rfl⟩⟩, ?_⟩
  rintro ⟨_, mem⟩
  exact absurd ((byPosition _ _).1 mem).1 (by decide)

/-- A block with a misspelt key and an empty list show their mount points to an entity. -/
theorem Shell.visibleMountPoints_misspelt :
    (WithoutList misspelt ∧ conditionDoc? (withBlock misspelt) = some misspelt ∧
        ((ofElement "acme.docs" (withBlock misspelt)).visibleMountPoints "tabs" sampleEntity
          none).map (·.importName) = ["default"]) ∧
      WithoutList (.array []) ∧ conditionDoc? (withBlock (.array [])) = some (.array []) ∧
        ((ofElement "acme.docs" (withBlock (.array []))).visibleMountPoints "tabs" sampleEntity
          none).map (·.importName) = ["default"] :=
  ⟨⟨withoutList_misspelt, conditionDoc?_withBlock _, rfl⟩, withoutList_array [],
    conditionDoc?_withBlock _, rfl⟩

end PortalConfig
