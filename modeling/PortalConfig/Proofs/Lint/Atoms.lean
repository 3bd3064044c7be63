import PortalConfig.Lint.Frontend
import PortalConfig.Proofs.Visibility.Shown

/-!
# Atoms that never hold

Linting looks for atoms that are not understood in the listed mount points as they are written.
What decides whether a mount point shows is its decoded `if` block, in a list from which the
elements that do not decode are gone. `ConditionBlock.placed` gives every condition of a block with
its place, the name of its list and its position there. For a listed mount point that decodes, the
places that linting reports at its index are those of the block at which a condition is not
understood (`Lint.places_reported_at`).
-/

namespace PortalConfig

open Visibility

variable {α β : Type}

/-! ## Conditions with their places -/

/-- The conditions of a list of an `if` block, each with its place. -/
def ConditionBlock.placedIn (list : String) (conditions : Option (List Condition)) :
    List ((String × Nat) × Condition) :=
  (conditions.getD []).zipIdx.map fun condition => ((list, condition.2), condition.1)

/-- The conditions of an `if` block, each with its place. -/
def ConditionBlock.placed (block : ConditionBlock) : List ((String × Nat) × Condition) :=
  placedIn "allOf" block.allOf ++ placedIn "anyOf" block.anyOf ++ placedIn "oneOf" block.oneOf

/-- A list of an `if` block by its name. -/
def ConditionBlock.list? (block : ConditionBlock) (name : String) : Option (List Condition) :=
  if name = "allOf" then block.allOf
  else if name = "anyOf" then block.anyOf
  else if name = "oneOf" then block.oneOf
  else none

/-- The conditions of the `if` block of a mount point, if it has one, each with its place. -/
def MountPoint.placed (entry : MountPoint) : List ((String × Nat) × Condition) :=
  ((entry.config.bind (·.condition)).map ConditionBlock.placed).getD []

/-- The place of the atom that a finding reports in the mount point at an index. -/
def FrontendFinding.atomAt? (index : Nat) : FrontendFinding → Option (String × Nat)
  | atomNeverHolds _ own list position => if own = index then some (list, position) else none
  | _ => none

theorem ConditionBlock.map_snd_placedIn (list : String) (conditions : Option (List Condition)) :
    (placedIn list conditions).map Prod.snd = conditions.getD [] := by
  rw [placedIn, List.map_map]
  exact List.zipIdx_map_fst 0 _

theorem ConditionBlock.mem_placedIn_iff {list name : String} {position : Nat}
    {conditions : Option (List Condition)} {condition : Condition} :
    ((name, position), condition) ∈ placedIn list conditions ↔
      name = list ∧ ∃ given, conditions = some given ∧ given[position]? = some condition := by
  unfold placedIn
  rw [List.mem_map]
  constructor
  · rintro ⟨⟨own, index⟩, mem, same⟩
    cases same
    have here := List.mem_zipIdx_iff_getElem?.1 mem
    cases conditions with
    | none => simp at here
    | some given => exact ⟨rfl, given, rfl, here⟩
  · rintro ⟨rfl, given, rfl, here⟩
    exact ⟨(condition, position), List.mem_zipIdx_iff_getElem?.2 here, rfl⟩

/-- In the order of the places stand the conditions of the block. -/
theorem ConditionBlock.map_snd_placed (block : ConditionBlock) :
    block.placed.map Prod.snd = block.conditions := by
  simp only [placed, conditions, List.map_append, map_snd_placedIn]

/-- A condition has the place at which it stands in the block. -/
theorem ConditionBlock.mem_placed_iff {block : ConditionBlock} {name : String} {position : Nat}
    {condition : Condition} :
    ((name, position), condition) ∈ block.placed ↔
      ∃ given, block.list? name = some given ∧ given[position]? = some condition := by
  simp only [placed, List.mem_append, mem_placedIn_iff]
  unfold list?
  split_ifs with all any one
  · subst all
    simp
  · subst any
    simp
  · subst one
    simp
  · simp [all, any, one]

theorem MountPoint.map_snd_placed (entry : MountPoint) :
    entry.placed.map Prod.snd =
      ((entry.config.bind (·.condition)).map ConditionBlock.conditions).getD [] := by
  unfold placed
  cases entry.config.bind (·.condition) with
  | none => rfl
  | some block => exact block.map_snd_placed

theorem MountPoint.mem_placed_iff {entry : MountPoint} {name : String} {position : Nat}
    {condition : Condition} :
    ((name, position), condition) ∈ entry.placed ↔
      ∃ block given, entry.config.bind (·.condition) = some block ∧
        block.list? name = some given ∧ given[position]? = some condition := by
  unfold placed
  cases entry.config.bind (·.condition) with
  | none => simp
  | some block => simp [ConditionBlock.mem_placed_iff]

/-- A condition that is not understood never holds. -/
theorem Atom.ofCondition_of_isUnknown {condition : Condition} (unknown : condition.isUnknown = true)
    (entity : Entity) (capabilities : Option Capabilities) :
    ofCondition condition entity capabilities = false := by
  cases condition with
  | unknown doc => rfl
  | callable | isKind | isType | annotated => cases unknown

/-! ## One mount point -/

/-- The atoms of a list that are not understood have the places of the conditions that are not. -/
theorem Lint.map_unknownAtoms (list : String) (atoms : List Doc) :
    (unknownAtoms atoms).map (fun position => (list, position)) =
      ((ConditionBlock.placedIn list (some (atoms.map Condition.ofDoc))).filter
        (·.2.isUnknown)).map Prod.fst := by
  unfold unknownAtoms ConditionBlock.placedIn
  rw [Option.getD_some, List.zipIdx_map, List.map_map, List.filter_map, List.map_map,
    List.map_filterMap, ← List.filterMap_eq_map, List.filterMap_filter]
  apply List.filterMap_congr
  rintro ⟨atom, position⟩ -
  cases unknown : (Condition.ofDoc atom).isUnknown <;> simp [unknown]

/-- The places that are reported of the value under the key of a list. -/
def Lint.reportedIn (list : String) (given : Option Doc) : List (String × Nat) :=
  (unknownAtoms ((given.bind Doc.array?).getD [])).map fun position => (list, position)

theorem Lint.mountPointAtoms_of_conditionDoc? {members : Members Doc} {block : Doc}
    (found : conditionDoc? (.object members) = some block) :
    mountPointAtoms (.object members) =
      conditionLists.flatMap fun list => reportedIn list (block.get? list) := by
  have written : ((Doc.object members).get? "config").bind (·.get? "if") = some block := found
  unfold mountPointAtoms
  rw [written]
  apply List.flatMap_congr
  intro list _
  unfold reportedIn
  cases (block.get? list).bind Doc.array? <;> rfl

/-- What is reported of a list that decodes are the places of the conditions that are not
understood. -/
theorem Lint.reportedIn_of_decodeOptional {list : String} {given : Option Doc}
    {read : Option (List Condition)}
    (decoded : Record.decodeOptional ConditionBlock.atoms? given = some read) :
    reportedIn list given =
      ((ConditionBlock.placedIn list read).filter (·.2.isUnknown)).map Prod.fst := by
  rcases ConditionBlock.decodeOptional_atoms? decoded with ⟨rfl, missing⟩ | ⟨atoms, rfl, rfl⟩
  · cases given with
    | none => rfl
    | some doc =>
        obtain rfl := missing doc rfl
        rfl
  · exact map_unknownAtoms list atoms

/-- The places that are reported of a mount point are those of the conditions that are not
understood in the block that it decodes to. -/
theorem Lint.mountPointAtoms_of_decode {members : Members Doc} {entry : MountPoint}
    (decoded : MountPoint.decode (.object members) = some entry)
    (shape : ∀ block, conditionDoc? (.object members) = some block →
      block = .null ∨ ∃ lists, block = .object lists) :
    mountPointAtoms (.object members) =
      (entry.placed.filter (·.2.isUnknown)).map Prod.fst := by
  unfold MountPoint.placed
  rcases Record.decodeOptional_eq_some_iff.1 (MountPoint.condition_of_decode decoded) with
    ⟨unconditional, missing⟩ | ⟨doc, found, notNull, block, read, conditional⟩
  · rw [unconditional]
    cases given : conditionDoc? (.object members) with
    | none =>
        have none : ((Doc.object members).get? "config").bind (·.get? "if") = none := given
        rw [mountPointAtoms, none]
        rfl
    | some doc =>
        obtain rfl := missing doc given
        rw [mountPointAtoms_of_conditionDoc? given]
        rfl
  · obtain ⟨lists, rfl⟩ := (shape doc found).resolve_left notNull
    obtain ⟨all, any, one⟩ := ConditionBlock.lists_of_decode read
    have inList : ∀ list, (Doc.object lists).get? list = Members.get? lists list := fun _ => rfl
    rw [mountPointAtoms_of_conditionDoc? found, conditional]
    simp only [conditionLists, List.flatMap_cons, List.flatMap_nil, List.append_nil, inList,
      reportedIn_of_decodeOptional all, reportedIn_of_decodeOptional any,
      reportedIn_of_decodeOptional one, Option.map_some, Option.getD_some, ConditionBlock.placed,
      List.filter_append, List.map_append, List.append_assoc]

/-! ## Lists of mount points -/

/-- Picking out the elements with an index from a numbered list finds the one at the index. -/
theorem Lint.flatMap_zipIdx_ite (reported : α → List β) (elements : List α) (start index : Nat) :
    (elements.zipIdx start).flatMap
        (fun element => if element.2 = start + index then reported element.1 else []) =
      (elements[index]?.map reported).getD [] := by
  induction elements generalizing start index with
  | nil => rfl
  | cons element elements ih =>
      rw [List.zipIdx_cons, List.flatMap_cons]
      cases index with
      | zero =>
          have later : (elements.zipIdx (start + 1)).flatMap
              (fun element => if element.2 = start + 0 then reported element.1 else []) = [] := by
            apply List.flatMap_eq_nil_iff.2
            intro other mem
            have after : start + 1 ≤ other.2 := (List.mem_zipIdx mem).1
            exact if_neg (by omega)
          rw [later, List.append_nil]
          exact if_pos rfl
      | succ index =>
          have next : start + (index + 1) = start + 1 + index := by omega
          rw [if_neg (by simp), List.nil_append, next, ih]
          rfl

/-- Of all that is reported of a list of mount points, the one at an index has its own. -/
theorem Lint.filterMap_atomAt?_mountPoints (scope : String) (entries : List Doc) (index : Nat) :
    (mountPoints scope entries).filterMap (·.atomAt? index) =
      (entries[index]?.map mountPointAtoms).getD [] := by
  rw [mountPoints, List.filterMap_flatMap, ← flatMap_zipIdx_ite mountPointAtoms entries 0 index]
  apply List.flatMap_congr
  rintro ⟨entry, own⟩ -
  rw [List.filterMap_map]
  by_cases same : own = index
  · subst same
    simp [FrontendFinding.atomAt?, Function.comp_def]
  · simp [FrontendFinding.atomAt?, same]

/-- An element that decodes comes after those before it that decode. -/
theorem Lint.getElem?_filterMap_take {decode : α → Option β} {elements : List α} {index : Nat}
    {element : α} {entry : β} (found : elements[index]? = some element)
    (decoded : decode element = some entry) :
    (elements.filterMap decode)[((elements.take index).filterMap decode).length]? =
      some entry := by
  obtain ⟨inside, rfl⟩ := List.getElem?_eq_some_iff.1 found
  have split : elements.filterMap decode =
      (elements.take index).filterMap decode ++
        entry :: (elements.drop (index + 1)).filterMap decode := by
    conv_lhs => rw [← List.take_append_drop index elements, List.drop_eq_getElem_cons inside]
    rw [List.filterMap_append, List.filterMap_cons_some decoded]
  rw [split, List.getElem?_append_right (Nat.le_refl _), Nat.sub_self]
  rfl

/-- **Exactly the conditions that are not understood are reported.** Let a listed mount point be
written as an object that decodes, its `if` missing, `null` or an object. What is reported at its
index are the places of the conditions that are not understood in the block that it decodes to, in
the order of the conditions of the block; none of these conditions ever holds; and the mount point
is kept, behind those before it that decode. -/
theorem Lint.places_reported_at (scope : String) {entries : List Doc} {index : Nat}
    {members : Members Doc} {entry : MountPoint}
    (found : entries[index]? = some (.object members))
    (decoded : MountPoint.decode (.object members) = some entry)
    (shape : ∀ block, conditionDoc? (.object members) = some block →
      block = .null ∨ ∃ lists, block = .object lists) :
    (mountPoints scope entries).filterMap (·.atomAt? index) =
        (entry.placed.filter (·.2.isUnknown)).map Prod.fst ∧
      entry.placed.map Prod.snd =
        ((entry.config.bind (·.condition)).map ConditionBlock.conditions).getD [] ∧
      (∀ list position condition, ((list, position), condition) ∈ entry.placed ↔
        ∃ block given, entry.config.bind (·.condition) = some block ∧
          block.list? list = some given ∧ given[position]? = some condition) ∧
      (∀ place condition, (place, condition) ∈ entry.placed → condition.isUnknown = true →
        ∀ entity capabilities, Atom.ofCondition condition entity capabilities = false) ∧
      ∀ plugin : Doc, plugin.listed "mountPoints" = entries →
        (Fragment.ofDoc plugin).mountPoints[
          ((entries.take index).filterMap MountPoint.decode).length]? = some entry := by
  refine ⟨?places, entry.map_snd_placed, fun _ _ _ => MountPoint.mem_placed_iff, ?never, ?kept⟩
  case places =>
    rw [filterMap_atomAt?_mountPoints, found]
    exact mountPointAtoms_of_decode decoded shape
  case never =>
    intro place condition _ unknown
    exact Atom.ofCondition_of_isUnknown unknown
  case kept =>
    rintro plugin rfl
    rw [Fragment.mountPoints_ofDoc]
    exact getElem?_filterMap_take found decoded

/-- A mount point whose lists hold conditions that are understood and conditions that are not, with
no list under one of the keys. -/
def Lint.sampleMountPoint : Members Doc :=
  [("mountPoint", .string "tabs"), ("config", .object [("if", .object [
    ("oneOf", .array [.object [("isType", .int 3)]]),
    ("anyOf", .null),
    ("allOf", .array [.object [("isKind", .string "api")], .string "isKind",
      .object [("isKind", .string "")]])])])]

theorem Lint.places_reported_at_sampleMountPoint :
    ∃ entry, MountPoint.decode (.object sampleMountPoint) = some entry ∧
      (∀ block, conditionDoc? (.object sampleMountPoint) = some block →
        block = .null ∨ ∃ lists, block = .object lists) ∧
      (mountPoints "acme.docs" [.string "tabs", .object sampleMountPoint]).filterMap
          (·.atomAt? 1) = [("allOf", 1), ("allOf", 2), ("oneOf", 0)] ∧
      (Fragment.ofDoc (.object [("mountPoints",
        .array [.string "tabs", .object sampleMountPoint])])).mountPoints[0]? = some entry := by
  have shape : ∀ block, conditionDoc? (.object sampleMountPoint) = some block →
      block = .null ∨ ∃ lists, block = .object lists := by
    intro block given
    exact Or.inr ⟨_, (Option.some.inj given).symm⟩
  have found : [Doc.string "tabs", .object sampleMountPoint][1]? =
      some (.object sampleMountPoint) := rfl
  refine ⟨_, rfl, shape, ?places, ?kept⟩
  case places => exact (places_reported_at "acme.docs" found rfl shape).1
  case kept => exact (places_reported_at "acme.docs" found rfl shape).2.2.2.2 _ rfl

end PortalConfig
