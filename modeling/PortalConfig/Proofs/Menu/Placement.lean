import PortalConfig.Proofs.Menu.Forest

/-!
# Which nodes the menu holds, and where

The menu of a frontend holds one item for every name that a route or a `menuItems` entry
contributes, and no other (`Menu.ofFrontend_complete_and_distinct`). An item is a child of the
parent it names unless it lies on a cycle of parents, and stands at the top in every other case
(`Menu.childOf_iff_parentOf_off_cycle`).
-/

namespace PortalConfig

open Relation

/-! ## The names that are contributed -/

/-- A route with a text for its menu item is named so, or some `menuItems` has the name for a
key. -/
def Menu.Contributed (frontend : Frontend) (name : String) : Prop :=
  ∃ fragment ∈ frontend.fragments,
    (∃ route ∈ fragment.dynamicRoutes, ∃ item,
      route.menuItem = some (.text item) ∧ nodeName route.path = name) ∨
    name ∈ fragment.menuItems.keys

theorem Route.menuText?_eq_some_iff {route : Route} {item : RouteMenuText} :
    route.menuText? = some item ↔ route.menuItem = some (.text item) := by
  unfold Route.menuText?
  split
  · next own eq => rw [eq, Option.some_inj, Option.some_inj, RouteMenuItem.text.injEq]
  · next other =>
      constructor
      · intro h
        cases h
      · intro h
        exact (other item h).elim

theorem Menu.mem_names_routeNodes {frontend : Frontend} {name : String} :
    name ∈ (routeNodes frontend).map Prod.fst ↔
      ∃ fragment ∈ frontend.fragments, ∃ route ∈ fragment.dynamicRoutes, ∃ item,
        route.menuItem = some (.text item) ∧ nodeName route.path = name := by
  simp only [routeNodes, List.map_flatMap, List.mem_flatMap, List.map_filterMap,
    List.mem_filterMap, Option.map_map, Option.map_eq_some_iff, Function.comp_apply,
    Route.menuText?_eq_some_iff]

theorem Menu.mem_keys_mergedOverrides {frontend : Frontend} {name : String} :
    name ∈ (mergedOverrides frontend).keys ↔
      ∃ fragment ∈ frontend.fragments, name ∈ fragment.menuItems.keys := by
  refine (Keyed.mem_keys_foldl_upsert Prod.fst
    (fun entry present => (present.getD MenuOverride.none).andThen entry.2) (overrides frontend)
    .empty name).trans ?_
  simp only [overrides, Keyed.empty, Keyed.keys, Members.keys, List.map_nil, List.not_mem_nil,
    false_or, List.map_flatMap, List.mem_flatMap]

/-- The nodes are those that are contributed. -/
theorem Menu.mem_keys_nodes {frontend : Frontend} {name : String} :
    name ∈ (nodes frontend).keys ↔ Contributed frontend name := by
  refine (Keyed.mem_keys_foldl_upsert Prod.fst
    (fun entry present => (present.getD MenuNode.blank).override entry.2)
    (mergedOverrides frontend).members (.ofList (routeNodes frontend)) name).trans ?_
  change _ ∨ name ∈ (mergedOverrides frontend).keys ↔ _
  rw [Keyed.mem_keys_ofList, mem_names_routeNodes, mem_keys_mergedOverrides, Contributed,
    ← exists_or]
  simp only [and_or_left]

/-! ## The menu -/

/-- Some item with the name `parent` has one with the name `child` directly below it. -/
def MenuItem.ChildOf (roots : List MenuItem) (child parent : String) : Prop :=
  ∃ item ∈ flattenAll roots, item.name = parent ∧ child ∈ item.children.map name

theorem Menu.mem_names_under {nodes : Keyed MenuNode} {place : Option String} {name : String} :
    name ∈ (under nodes place).map MenuItem.name ↔ PlacedUnder nodes (some name) place := by
  rw [List.mem_map]
  constructor
  · intro holds
    rcases holds with ⟨item, mem, rfl⟩
    obtain ⟨own, edge, rfl⟩ := mem_under.1 mem
    exact edge
  · intro edge
    exact ⟨tree nodes name, mem_under.2 ⟨name, edge, rfl⟩, rfl⟩

/-- The items of the menu are the trees of its nodes. -/
theorem Menu.mem_flattenAll_ofFrontend {frontend : Frontend} {item : MenuItem} :
    item ∈ MenuItem.flattenAll (ofFrontend frontend) ↔
      ∃ name ∈ (nodes frontend).keys, item = tree (nodes frontend) name := by
  change item ∈ MenuItem.flattenAll (under (nodes frontend) none) ↔ _
  rw [mem_flattenAll_under]
  constructor
  · intro holds
    rcases holds with ⟨name, path, rfl⟩
    obtain ⟨_, ⟨own, mem, eq, -⟩, -⟩ := TransGen.head'_iff.1 path
    exact ⟨name, Option.some.inj eq ▸ mem, rfl⟩
  · intro holds
    rcases holds with ⟨name, mem, rfl⟩
    exact ⟨name, placedUnder_none_of_mem mem, rfl⟩

theorem Menu.mem_names_ofFrontend {frontend : Frontend} {name : String} :
    name ∈ (MenuItem.flattenAll (ofFrontend frontend)).map MenuItem.name ↔
      name ∈ (nodes frontend).keys := by
  rw [List.mem_map]
  constructor
  · intro holds
    rcases holds with ⟨item, mem, rfl⟩
    obtain ⟨own, ownMem, rfl⟩ := mem_flattenAll_ofFrontend.1 mem
    exact ownMem
  · intro mem
    exact ⟨_, mem_flattenAll_ofFrontend.2 ⟨name, mem, rfl⟩, rfl⟩

/-- Searching the roots in order finds the item with a name wherever it stands. -/
theorem Menu.findAmong?_ofFrontend_eq_some_iff {frontend : Frontend} {name : String}
    {item : MenuItem} :
    MenuItem.findAmong? name (ofFrontend frontend) = some item ↔
      item ∈ MenuItem.flattenAll (ofFrontend frontend) ∧ item.name = name := by
  rw [MenuItem.findAmong?_eq_find?_flattenAll]
  constructor
  · intro found
    exact ⟨List.mem_of_find?_eq_some found, of_decide_eq_true (List.find?_some found :)⟩
  · intro holds
    rcases holds with ⟨mem, rfl⟩
    cases found : (MenuItem.flattenAll (ofFrontend frontend)).find? fun own =>
        own.name = item.name with
    | none => exact (List.find?_eq_none.1 found item mem (decide_eq_true rfl)).elim
    | some other =>
        have sameName : other.name = item.name := of_decide_eq_true (List.find?_some found :)
        obtain ⟨own, -, rfl⟩ := mem_flattenAll_ofFrontend.1 mem
        obtain ⟨also, -, rfl⟩ := mem_flattenAll_ofFrontend.1 (List.mem_of_find?_eq_some found)
        rw [name_tree, name_tree] at sameName
        rw [sameName]

/-- **The menu loses and repeats nothing.** Over all depths it holds every contributed name
exactly once and no other name, and searching its roots in order finds the one item of a name. -/
theorem Menu.ofFrontend_complete_and_distinct (frontend : Frontend) :
    ((MenuItem.flattenAll (ofFrontend frontend)).map MenuItem.name).Nodup ∧
      (∀ name, name ∈ (MenuItem.flattenAll (ofFrontend frontend)).map MenuItem.name ↔
        Contributed frontend name) ∧
      (∀ name item, MenuItem.findAmong? name (ofFrontend frontend) = some item ↔
        item ∈ MenuItem.flattenAll (ofFrontend frontend) ∧ item.name = name) ∧
      ∀ name, MenuItem.findAmong? name (ofFrontend frontend) = none ↔
        ¬ Contributed frontend name := by
  have names : ∀ name, name ∈ (MenuItem.flattenAll (ofFrontend frontend)).map MenuItem.name ↔
      Contributed frontend name := fun name => mem_names_ofFrontend.trans mem_keys_nodes
  refine ⟨nodup_names_under (nodes frontend) none, names,
    fun name item => findAmong?_ofFrontend_eq_some_iff, fun name => ?_⟩
  rw [← names name, List.mem_map, ← Option.not_isSome_iff_eq_none, Option.isSome_iff_exists]
  simp only [findAmong?_ofFrontend_eq_some_iff]

/-- **Placement is the parent relation with cycles cut.** A node is a child of `parent` exactly
when it names `parent`, that node is there, and the node is on no cycle; it is a root when this
holds of no parent, and a node whose ancestors run into a cycle of others keeps its parent. -/
theorem Menu.childOf_iff_parentOf_off_cycle (frontend : Frontend) (child : String) :
    (∀ parent, MenuItem.ChildOf (ofFrontend frontend) child parent ↔
        ParentOf (nodes frontend) child parent ∧ ¬ OnCycle (nodes frontend) child) ∧
      (child ∈ (ofFrontend frontend).map MenuItem.name ↔
        child ∈ (nodes frontend).keys ∧ ∀ parent,
          ¬ (ParentOf (nodes frontend) child parent ∧ ¬ OnCycle (nodes frontend) child)) ∧
      ∀ parent ancestor, ParentOf (nodes frontend) child parent →
        ReflTransGen (ParentOf (nodes frontend)) parent ancestor →
        OnCycle (nodes frontend) ancestor → ¬ OnCycle (nodes frontend) child →
        MenuItem.ChildOf (ofFrontend frontend) child parent := by
  have children : ∀ parent, MenuItem.ChildOf (ofFrontend frontend) child parent ↔
      ParentOf (nodes frontend) child parent ∧ ¬ OnCycle (nodes frontend) child := by
    intro parent
    rw [← effectiveParent_eq_some_iff]
    constructor
    · intro holds
      rcases holds with ⟨item, mem, rfl, below⟩
      obtain ⟨name, -, rfl⟩ := mem_flattenAll_ofFrontend.1 mem
      obtain ⟨same, -, eq, placed⟩ := mem_names_under.1 below
      exact Option.some.inj eq ▸ placed
    · intro placed
      have edge := (effectiveParent_eq_some_iff.1 placed).1
      exact ⟨tree (nodes frontend) parent,
        mem_flattenAll_ofFrontend.2 ⟨parent, edge.2, rfl⟩, rfl,
        mem_names_under.2 ⟨child, edge.mem_keys, rfl, placed⟩⟩
  refine ⟨children, ?_, fun parent _ edge _ _ off => (children parent).2 ⟨edge, off⟩⟩
  change child ∈ (under (nodes frontend) none).map MenuItem.name ↔ _
  rw [mem_names_under]
  simp only [← effectiveParent_eq_some_iff, ← Option.eq_none_iff_forall_ne_some]
  constructor
  · intro holds
    rcases holds with ⟨same, mem, eq, placed⟩
    exact Option.some.inj eq ▸ ⟨mem, placed⟩
  · intro holds
    rcases holds with ⟨mem, placed⟩
    exact ⟨child, mem, rfl, placed⟩

end PortalConfig
