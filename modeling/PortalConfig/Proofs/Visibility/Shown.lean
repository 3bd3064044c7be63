import PortalConfig.Proofs.Aggregation
import PortalConfig.Proofs.Frontend
import PortalConfig.Proofs.Shell
import PortalConfig.Proofs.Visibility.Meaning

/-!
# Which mount points show

From the document of a frontend to the mount points that show for an entity there are five stages:
fragments are decoded, their entries resolved, the entries grouped by id, their `if` blocks
compiled, and the group of an id filtered by its predicates.
`Shell.visibleMountPoints_eq_flatMap_shown` states the outcome on the document alone.
-/

namespace PortalConfig

open Visibility

/-! ## Mount points on the document -/

/-- The `if` in the configuration of a listed mount point, which may be written as an object or as
the list of its fields. -/
def Visibility.conditionDoc? : Doc → Option Doc
  | .object members => (Members.get? members "config").bind fun config => config.get? "if"
  | .array fields => fields[3]?.bind fun config => config.get? "if"
  | _ => none

/-- Every `if` of a listed mount point is missing, `null` or an object. -/
def Visibility.ObjectBlocks (frontend : Keyed Doc) : Prop :=
  ∀ member ∈ frontend.members, ∀ element ∈ member.2.listed "mountPoints",
    ∀ block, conditionDoc? element = some block →
      block = .null ∨ ∃ members, block = .object members

open Classical in
/-- What a listed mount point shows as: its rendered form, if it decodes, stands under the id, and
its `if` block is true of the entity. -/
noncomputable def Visibility.shown? (id : String) (entity : Entity) (scope : String)
    (element : Doc) : Option RenderedMountPoint :=
  (MountPoint.decode element).bind fun entry =>
    if entry.mountPoint = id ∧ BlockHolds entity (conditionDoc? element) then
      some (.ofEntry (entry.resolve scope))
    else none

/-! ## Stage by stage -/

theorem Fragment.mountPoints_ofDoc (plugin : Doc) :
    (Fragment.ofDoc plugin).mountPoints =
      (plugin.listed "mountPoints").filterMap MountPoint.decode := by
  rw [Fragment.ofDoc_eq_ofMembers]
  refine (decodable_eq_filterMap _ _).trans ?_
  cases plugin <;> rfl

/-- The registered mount points of a frontend, read off its document. -/
theorem Frontend.mountPoints_resolve_ofDoc (frontend : Keyed Doc) :
    (Frontend.ofDoc (.object frontend.members)).resolve.mountPoints =
      frontend.members.flatMap fun member =>
        ((member.2.listed "mountPoints").filterMap MountPoint.decode).map
          (MountPoint.resolve member.1) := by
  rw [Frontend.mountPoints_resolve, Frontend.toList_ofDoc, List.flatMap_map]
  simp only [Fragment.mountPoints_ofDoc]

/-- The `if` block of a decoded mount point is the one in its document. -/
theorem MountPoint.condition_of_decode {element : Doc} {entry : MountPoint}
    (decoded : MountPoint.decode element = some entry) :
    Record.decodeOptional ConditionBlock.decode (conditionDoc? element) =
      some (entry.config.bind (·.condition)) := by
  rw [MountPoint.decode, Doc.record_eq] at decoded
  obtain ⟨record, form, ran⟩ := Option.bind_eq_some_iff.1 decoded
  obtain ⟨left, ran, -⟩ := Record.run_eq_some_iff.1 ran
  simp only [Record.required_bind, Record.optional_bind, Option.bind_eq_some_iff,
    Record.pure_run] at ran
  obtain ⟨_, _, _, _, _, _, config, read, eq⟩ := ran
  cases eq
  have place : conditionDoc? element =
      (record.rest.rest.rest.next "config").bind fun config => config.get? "if" := by
    cases element with
    | object members => cases form; rfl
    | array fields =>
        cases form
        rw [conditionDoc?, Record.rest, Record.rest, Record.rest, Record.next,
          List.head?_eq_getElem?, List.getElem?_tail, List.getElem?_tail, List.getElem?_tail]
    | null | bool _ | number _ | string _ => cases form
  rw [place]
  rcases Record.decodeOptional_eq_some_iff.1 read with
    ⟨rfl, missing⟩ | ⟨doc, found, -, config, configDecoded, rfl⟩
  · cases given : record.rest.rest.rest.next "config" with
    | none => rfl
    | some doc => rw [missing doc given]; rfl
  · rw [found]
    obtain ⟨members, object, rest⟩ := Option.bind_eq_some_iff.1 configDecoded
    obtain ⟨_, _, rest⟩ := Option.bind_eq_some_iff.1 rest
    obtain ⟨_, _, rest⟩ := Option.bind_eq_some_iff.1 rest
    obtain ⟨condition, conditionRead, eq⟩ := Option.bind_eq_some_iff.1 rest
    cases eq
    obtain rfl := Doc.object?_eq_some_iff.1 object
    exact conditionRead

/-- A mount point that decodes is visible exactly when the `if` block in its document is true. -/
theorem RenderedMountPoint.isVisible_iff_of_decode {element : Doc} {entry : MountPoint}
    {scope : String} {entity : Entity} {capabilities : Option Capabilities}
    (decoded : MountPoint.decode element = some entry)
    (shape : ∀ block, conditionDoc? element = some block →
      block = .null ∨ ∃ members, block = .object members) :
    (ofEntry (entry.resolve scope)).isVisible entity capabilities = true ↔
      BlockHolds entity (conditionDoc? element) :=
  Predicate.evaluate_compile_iff (MountPoint.condition_of_decode decoded) shape

/-- **What shows is what the document says.** Where every `if` is missing, `null` or an object, the
mount points that show under an id are, in the order of the scopes and then of their lists, the
rendered forms of the listed elements that decode, stand under the id and have a true `if`
block. -/
theorem Shell.visibleMountPoints_eq_flatMap_shown (frontend : Keyed Doc) (id : String)
    (entity : Entity) (capabilities : Option Capabilities) (shape : ObjectBlocks frontend) :
    (Shell.ofRegistry (Frontend.ofDoc (.object frontend.members)).resolve).visibleMountPoints id
        entity capabilities =
      frontend.members.flatMap fun member =>
        (member.2.listed "mountPoints").filterMap (shown? id entity member.1) := by
  rw [visibleMountPoints, mountPoints_ofRegistry, Frontend.mountPoints_resolve_ofDoc,
    List.filter_flatMap, List.map_flatMap, List.filter_flatMap]
  apply List.flatMap_congr
  intro member memberMem
  simp only [List.map_filterMap, List.filter_filterMap]
  apply List.filterMap_congr
  intro element elementMem
  unfold shown?
  cases decoded : MountPoint.decode element with
  | none => rfl
  | some entry =>
      have visible : (RenderedMountPoint.ofEntry (entry.resolve member.1)).isVisible entity
          capabilities = true ↔ BlockHolds entity (conditionDoc? element) :=
        RenderedMountPoint.isVisible_iff_of_decode decoded
          (shape member memberMem element elementMem)
      have id_eq : (entry.resolve member.1).mountPoint = entry.mountPoint := rfl
      by_cases same : entry.mountPoint = id
      · by_cases holds : BlockHolds entity (conditionDoc? element)
        · simp [same, holds, visible.2 holds, id_eq, Option.filter]
        · have hidden : (RenderedMountPoint.ofEntry (entry.resolve member.1)).isVisible entity
              capabilities = false := Bool.eq_false_iff.2 (mt visible.1 holds)
          simp [same, holds, hidden, id_eq, Option.filter]
      · simp [same, id_eq, Option.filter]

/-- A plugin whose first mount point has several lists and keys that do not count as given, whose
second has an atom that is not understood, whose third is none, and whose fourth is written as a
list; and a plugin that is not a map. -/
def Visibility.sampleFrontend : Keyed Doc where
  members :=
    [("acme.docs", .object [("mountPoints", .array [
        .object [("mountPoint", .string "tabs"), ("config", .object [("if", .object [
          ("anyOf", .null),
          ("oneOf", .array [.object [("isKind", .string "COMPONENT")],
            .object [("isKind", .string ""), ("isType", .array [.string "api", .int 1])]])])])],
        .object [("mountPoint", .string "tabs"), ("importName", .string "Hidden"),
          ("config", .object [("if", .object [("allOf", .array [.string "isKind"])])])],
        .string "tabs",
        .array [.string "tabs", .null, .string "Listed"]])]),
      ("acme.none", .null)]
  nodup := by decide

/-- An entity of a kind that differs from the configured one in letter case. -/
def Visibility.sampleEntity : Entity := ⟨.object [("kind", .string "Component")]⟩

theorem Shell.visibleMountPoints_sampleFrontend :
    ObjectBlocks sampleFrontend ∧
      (Shell.ofRegistry (Frontend.ofDoc (.object sampleFrontend.members)).resolve
        ).visibleMountPoints "tabs" sampleEntity none =
        sampleFrontend.members.flatMap (fun member =>
          (member.2.listed "mountPoints").filterMap (shown? "tabs" sampleEntity member.1)) ∧
      (sampleFrontend.members.flatMap fun member =>
        (member.2.listed "mountPoints").filterMap (shown? "tabs" sampleEntity member.1)).map
          (·.importName) = ["default", "Listed"] := by
  have shape : ObjectBlocks sampleFrontend := by
    simp [ObjectBlocks, sampleFrontend, Doc.listed, Doc.elements, Doc.get?, Doc.object?,
      Members.get?, conditionDoc?]
  have shown := visibleMountPoints_eq_flatMap_shown sampleFrontend "tabs" sampleEntity none shape
  exact ⟨shape, shown, by rw [← shown]; rfl⟩

end PortalConfig
