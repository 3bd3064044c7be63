import PortalConfig.Proofs.Frontend
import PortalConfig.Proofs.Menu.Order
import PortalConfig.Proofs.Menu.Precedence

/-!
# The menu under another order of the scopes

Where every name is contributed at most once by a route and at most once by a `menuItems` entry,
nothing is left for the order of the scopes to decide but the order of the nodes. The nodes found
under their names are then the same (`Menu.get?_nodes_of_perm`), and so are the parents and the
cycles that they form, so that every level holds the same items, sorted by the same ranks
(`Menu.ofFrontend_of_perm`).
-/

namespace PortalConfig

open Relation

/-! ## Nodes that are contributed once -/

theorem Frontend.fragments_perm {frontend other : Frontend}
    (perm : frontend.toList.Perm other.toList) : frontend.fragments.Perm other.fragments :=
  perm.map Prod.snd

/-- A node that comes from one route and one override at most is read off them directly. -/
theorem Menu.get?_nodes_of_distinct {frontend : Frontend}
    (routesOnce : (routeNames frontend).Nodup) (overridesOnce : (overrideNames frontend).Nodup)
    (name : String) :
    (nodes frontend).get? name =
      ((Members.get? (overrides frontend) name).map fun item =>
        ((Members.get? (routeNodes frontend) name).getD .blank).override
          (MenuOverride.none.andThen item)).or
      (Members.get? (routeNodes frontend) name) := by
  have routes : (Keyed.ofList (routeNodes frontend)).get? name =
      Members.get? (routeNodes frontend) name := by
    have distinct : (Members.keys (routeNodes frontend)).Nodup := by
      rw [keys_routeNodes]
      exact routesOnce
    rw [Keyed.get?, Keyed.members_ofList distinct]
  have merged : (mergedOverrides frontend).get? name =
      (Members.get? (overrides frontend) name).map MenuOverride.none.andThen := by
    have distinct : (Members.keys (overrides frontend)).Nodup := by
      rw [keys_overrides]
      exact overridesOnce
    refine (Keyed.get?_foldl_upsert
      (fun item present => (present.getD MenuOverride.none).andThen item) distinct .empty
      name).trans ?_
    exact Option.or_none
  rw [get?_nodes, routes, merged, Option.map_map]
  rfl

/-- The order of the scopes does not matter to the nodes. -/
theorem Menu.get?_nodes_of_perm {frontend other : Frontend}
    (perm : frontend.toList.Perm other.toList) (routesOnce : (routeNames frontend).Nodup)
    (overridesOnce : (overrideNames frontend).Nodup) (name : String) :
    (nodes frontend).get? name = (nodes other).get? name := by
  have fragments := Frontend.fragments_perm perm
  have routes : (routeNodes frontend).Perm (routeNodes other) := fragments.flatMap_right _
  have items : (overrides frontend).Perm (overrides other) := fragments.flatMap_right _
  have routeKeys : (routeNames frontend).Perm (routeNames other) := fragments.flatMap_right _
  have overrideKeys : (overrideNames frontend).Perm (overrideNames other) :=
    fragments.flatMap_right _
  rw [get?_nodes_of_distinct routesOnce overridesOnce,
    get?_nodes_of_distinct (routeKeys.nodup_iff.1 routesOnce)
      (overrideKeys.nodup_iff.1 overridesOnce),
    Members.get?_of_perm routes (keys_routeNodes frontend ▸ routesOnce),
    Members.get?_of_perm items (keys_overrides frontend ▸ overridesOnce)]

/-! ## Menus of the same nodes -/

section SameNodes

variable {nodes others : Keyed MenuNode}

theorem Menu.parentOf_congr (same : ∀ name, nodes.get? name = others.get? name) :
    ParentOf nodes = ParentOf others := by
  funext child parent
  rw [ParentOf, ParentOf, same, Keyed.mem_keys_congr same]

/-- Which edges are cut depends on the nodes alone, and not on where a walk along a cycle starts. -/
theorem Menu.effectiveParent_congr (same : ∀ name, nodes.get? name = others.get? name)
    (name : String) : effectiveParent nodes name = effectiveParent others name := by
  refine Option.ext fun parent => ?_
  rw [effectiveParent_eq_some_iff, effectiveParent_eq_some_iff, OnCycle, OnCycle,
    parentOf_congr same]

theorem Menu.placedUnder_congr (same : ∀ name, nodes.get? name = others.get? name) :
    PlacedUnder nodes = PlacedUnder others := by
  funext place above
  simp only [PlacedUnder, Keyed.mem_keys_congr same, effectiveParent_congr same]

theorem Menu.childNames_perm (same : ∀ name, nodes.get? name = others.get? name)
    (place : Option String) : (childNames nodes place).Perm (childNames others place) := by
  refine (List.perm_ext_iff_of_nodup (nodes.nodup.filter _) (others.nodup.filter _)).2
    fun name => ?_
  exact mem_childNames.trans (placedUnder_congr same ▸ mem_childNames.symm)

end SameNodes

/-! ## Levels of the same nodes -/

/-- An item apart from what is below it. -/
def MenuItem.label (item : MenuItem) : String × MenuNode := (item.name, item.fields)

/-- The levels hold the same items apart from what is below them, in orders that differ at most
among items of equal rank: the ranks agree from place to place. -/
structure MenuItem.SameUpToTies (siblings others : List MenuItem) : Prop where
  labels : (siblings.map label).Perm (others.map label)
  ranks : (siblings.map fun item => item.fields.rank) = others.map fun item => item.fields.rank

theorem Menu.label_tree (nodes : Keyed MenuNode) (name : String) :
    (tree nodes name).label = (name, (nodes.get? name).getD .blank) := rfl

theorem Menu.sameUpToTies_under {nodes others : Keyed MenuNode}
    (same : ∀ name, nodes.get? name = others.get? name) (place : Option String) :
    MenuItem.SameUpToTies (under nodes place) (under others place) := by
  have labels : ((under nodes place).map MenuItem.label).Perm
      ((under others place).map MenuItem.label) := by
    have level : ∀ table : Keyed MenuNode, ((under table place).map MenuItem.label).Perm
        ((childNames table place).map fun name => (name, (table.get? name).getD .blank)) := by
      intro table
      have mapped := (under_perm table place).map MenuItem.label
      rw [List.map_map] at mapped
      exact mapped
    have values : (fun name => (name, (nodes.get? name).getD .blank)) =
        fun name => (name, (others.get? name).getD .blank) :=
      funext fun name => by rw [same]
    exact (level nodes).trans
      (values ▸ ((childNames_perm same place).map _).trans (level others).symm)
  refine ⟨labels, ?_⟩
  have ranks := labels.map fun entry => entry.2.rank
  rw [List.map_map, List.map_map] at ranks
  exact List.Perm.eq_of_pairwise (fun _ _ _ _ ba ab => Int64.le_antisymm ab ba)
    (pairwise_ranks_under nodes place) (pairwise_ranks_under others place) ranks

/-! ## The menu -/

theorem Menu.childOf_ofFrontend_iff {frontend : Frontend} {child parent : String} :
    MenuItem.ChildOf (ofFrontend frontend) child parent ↔
      PlacedUnder (nodes frontend) (some child) (some parent) := by
  constructor
  · intro holds
    rcases holds with ⟨item, mem, rfl, below⟩
    obtain ⟨name, -, rfl⟩ := mem_flattenAll_ofFrontend.1 mem
    exact mem_names_under.1 below
  · intro edge
    exact ⟨tree (nodes frontend) parent,
      mem_flattenAll_ofFrontend.2 ⟨parent, edge.parentOf.2, rfl⟩, rfl, mem_names_under.2 edge⟩

theorem Menu.mem_labels_ofFrontend {frontend : Frontend} {label : String × MenuNode} :
    label ∈ (MenuItem.flattenAll (ofFrontend frontend)).map MenuItem.label ↔
      (nodes frontend).get? label.1 = some label.2 := by
  obtain ⟨name, fields⟩ := label
  rw [List.mem_map]
  constructor
  · intro holds
    rcases holds with ⟨item, mem, eq⟩
    obtain ⟨own, present, rfl⟩ := mem_flattenAll_ofFrontend.1 mem
    obtain ⟨node, found⟩ := (Keyed.mem_keys_iff _ own).1 present
    rw [label_tree, found] at eq
    obtain ⟨rfl, rfl⟩ := Prod.mk.inj eq
    exact found
  · intro found
    have present := (Keyed.mem_keys_iff (nodes frontend) name).2 ⟨fields, found⟩
    refine ⟨_, mem_flattenAll_ofFrontend.2 ⟨name, present, rfl⟩, ?_⟩
    rw [label_tree, found, Option.getD_some]

theorem Menu.nodup_labels_ofFrontend (frontend : Frontend) :
    ((MenuItem.flattenAll (ofFrontend frontend)).map MenuItem.label).Nodup := by
  have names := nodup_names_under (nodes frontend) none
  refine List.Nodup.of_map Prod.fst ?_
  rw [List.map_map]
  exact names

/-- **The order of the scopes decides ties only.** Where a name comes from one route and one
`menuItems` entry at most, another order of the scopes leaves the items with all their fields and
the edges between them as they are, and moves siblings at most among those of equal rank. -/
theorem Menu.ofFrontend_of_perm {frontend other : Frontend}
    (perm : frontend.toList.Perm other.toList) (routesOnce : (routeNames frontend).Nodup)
    (overridesOnce : (overrideNames frontend).Nodup) :
    ((MenuItem.flattenAll (ofFrontend frontend)).map MenuItem.label).Perm
        ((MenuItem.flattenAll (ofFrontend other)).map MenuItem.label) ∧
      (∀ child parent, MenuItem.ChildOf (ofFrontend frontend) child parent ↔
        MenuItem.ChildOf (ofFrontend other) child parent) ∧
      MenuItem.SameUpToTies (ofFrontend frontend) (ofFrontend other) ∧
      ∀ item ∈ MenuItem.flattenAll (ofFrontend frontend),
        ∀ twin ∈ MenuItem.flattenAll (ofFrontend other), item.name = twin.name →
          MenuItem.SameUpToTies item.children twin.children := by
  have same := get?_nodes_of_perm perm routesOnce overridesOnce
  refine ⟨?_, fun child parent => ?_, sameUpToTies_under same none, ?_⟩
  · refine (List.perm_ext_iff_of_nodup (nodup_labels_ofFrontend frontend)
      (nodup_labels_ofFrontend other)).2 fun label => ?_
    rw [mem_labels_ofFrontend, mem_labels_ofFrontend, same]
  · rw [childOf_ofFrontend_iff, childOf_ofFrontend_iff, placedUnder_congr same]
  · intro item mem twin twinMem sameName
    obtain ⟨name, -, rfl⟩ := mem_flattenAll_ofFrontend.1 mem
    obtain ⟨twinName, -, rfl⟩ := mem_flattenAll_ofFrontend.1 twinMem
    obtain rfl : name = twinName := sameName
    exact sameUpToTies_under same (some name)

/-- Two nodes that are each other's parent, declared in different scopes, one of them by a route
and overridden in a third scope, and a node below the cycle. -/
def Menu.cyclicScopes : Members Doc :=
  [("acme.first", .object [("menuItems", .object
      [("x", .object [("parent", .string "y")])])]),
    ("acme.second", .object [("dynamicRoutes", .array
      [.object [("path", .string "/y"), ("importName", .string "Y"), ("menuItem", .object
        [("text", .string "Y"), ("icon", .string "")])]])]),
    ("acme.third", .object [("menuItems", .object
      [("y", .object [("parent", .string "x"), ("priority", .int 0)]),
        ("z", .object [("parent", .string "x")])])])]

def Menu.cyclicFrontend : Frontend := .ofDoc (.object cyclicScopes)

def Menu.reversedFrontend : Frontend := .ofDoc (.object cyclicScopes.reverse)

theorem Menu.ofFrontend_of_perm_cyclicFrontend :
    cyclicFrontend.toList.Perm reversedFrontend.toList ∧ (routeNames cyclicFrontend).Nodup ∧
      (overrideNames cyclicFrontend).Nodup ∧
      aggregationOrder cyclicFrontend = ["y", "x", "z"] ∧
      aggregationOrder reversedFrontend = ["y", "z", "x"] ∧
      MenuItem.ChildOf (ofFrontend cyclicFrontend) "z" "x" ∧
      MenuItem.ChildOf (ofFrontend reversedFrontend) "z" "x" ∧
      MenuItem.SameUpToTies (ofFrontend cyclicFrontend) (ofFrontend reversedFrontend) := by
  have perm : cyclicFrontend.toList.Perm reversedFrontend.toList := by
    have listed : cyclicFrontend.toList = _ := Frontend.toList_ofDoc ⟨cyclicScopes, by decide⟩
    have reversed : reversedFrontend.toList = _ :=
      Frontend.toList_ofDoc ⟨cyclicScopes.reverse, by decide⟩
    rw [listed, reversed]
    exact (List.reverse_perm cyclicScopes).symm.map _
  have routesOnce : (routeNames cyclicFrontend).Nodup := by decide +kernel
  have overridesOnce : (overrideNames cyclicFrontend).Nodup := by decide +kernel
  have below : MenuItem.ChildOf (ofFrontend cyclicFrontend) "z" "x" :=
    childOf_ofFrontend_iff.2 ⟨"z", by decide +kernel, rfl, by decide +kernel⟩
  obtain ⟨-, edges, roots, -⟩ := ofFrontend_of_perm perm routesOnce overridesOnce
  exact ⟨perm, routesOnce, overridesOnce, by decide +kernel, by decide +kernel, below,
    (edges "z" "x").1 below, roots⟩

end PortalConfig
