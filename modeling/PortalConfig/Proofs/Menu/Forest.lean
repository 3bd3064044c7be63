import PortalConfig.Proofs.Menu.Parents

/-!
# The trees of the menu

`Menu.forest` takes from a shrinking pool of names those that belong under a place. The pool only
serves its termination: as long as it still holds everything below the place, the trees do not
depend on it (`Menu.forest_eq`), and each level is the sorted list of the trees of the names placed
there (`Menu.under_eq`). From this the tree is read off: its items are the trees of the nodes below
the top (`Menu.mem_flattenAll_under`), each of them once (`Menu.nodup_names_under`).
-/

namespace PortalConfig

open Relation

/-! ## All items of a list of trees -/

mutual

/-- The item and everything below it, from the top. -/
def MenuItem.flatten : MenuItem → List MenuItem
  | .node name fields children => .node name fields children :: flattenAll children

/-- The items of a list of trees, at every depth. -/
def MenuItem.flattenAll : List MenuItem → List MenuItem
  | [] => []
  | item :: rest => flatten item ++ flattenAll rest

end

theorem MenuItem.flattenAll_eq_flatMap (items : List MenuItem) :
    flattenAll items = items.flatMap flatten := by
  induction items with
  | nil => rw [flattenAll, List.flatMap_nil]
  | cons item rest ih => rw [flattenAll, ih, List.flatMap_cons]

mutual

theorem MenuItem.find?_eq_find?_flatten (name : String) :
    (item : MenuItem) → find? name item = (flatten item).find? fun own => own.name = name
  | .node own fields children => by
      rw [find?, flatten, List.find?_cons]
      by_cases same : own = name
      · rw [if_pos same]
        simp only [MenuItem.name, same, decide_true]
      · rw [if_neg same, findAmong?_eq_find?_flattenAll name children]
        simp only [MenuItem.name, same, decide_false]

/-- The search meets the items in the order of `flattenAll`. -/
theorem MenuItem.findAmong?_eq_find?_flattenAll (name : String) :
    (items : List MenuItem) →
      findAmong? name items = (flattenAll items).find? fun own => own.name = name
  | [] => by rw [findAmong?, flattenAll, List.find?_nil]
  | item :: rest => by
      rw [findAmong?, flattenAll, List.find?_append, find?_eq_find?_flatten name item,
        findAmong?_eq_find?_flattenAll name rest]

end

/-! ## One level of the menu -/

variable {nodes : Keyed MenuNode}

/-- The names placed directly under a place, in the order of the nodes. -/
def Menu.childNames (nodes : Keyed MenuNode) (place : Option String) : List String :=
  nodes.keys.filter fun name => effectiveParent nodes name == place

/-- The trees under a place. -/
def Menu.under (nodes : Keyed MenuNode) (place : Option String) : List MenuItem :=
  forest nodes nodes.keys place

/-- The tree of a node. -/
def Menu.tree (nodes : Keyed MenuNode) (name : String) : MenuItem :=
  .node name ((nodes.get? name).getD .blank) (under nodes (some name))

theorem Menu.mem_childNames {place : Option String} {name : String} :
    name ∈ childNames nodes place ↔ PlacedUnder nodes (some name) place := by
  unfold childNames PlacedUnder
  rw [List.mem_filter, beq_iff_eq]
  constructor
  · intro holds
    rcases holds with ⟨mem, placed⟩
    exact ⟨name, mem, rfl, placed⟩
  · intro holds
    rcases holds with ⟨same, mem, eq, placed⟩
    obtain rfl := Option.some.inj eq
    exact ⟨mem, placed⟩

theorem Menu.forest_unfold (pool : List String) (place : Option String) :
    forest nodes pool place =
      sortByRank ((pool.filter fun name => effectiveParent nodes name == place).map fun name =>
        .node name ((nodes.get? name).getD .blank)
          (forest nodes (pool.filter fun name => !(effectiveParent nodes name == place))
            (some name))) := by
  rw [forest]
  split
  · next empty => rw [empty, List.map_nil, sortByRank, List.mergeSort_nil]
  · rfl

/-- The pool still holds every name placed under `place` or deeper. -/
def Menu.PoolComplete (nodes : Keyed MenuNode) (pool : List String) (place : Option String) :
    Prop :=
  ∀ below, ReflTransGen (PlacedUnder nodes) below place →
    (pool.filter fun name => effectiveParent nodes name == below) = childNames nodes below

/-- Descending one level, the pool loses only names that are not below. -/
theorem Menu.PoolComplete.descend {pool : List String} {place : Option String} {name : String}
    (complete : PoolComplete nodes pool place) (edge : PlacedUnder nodes (some name) place) :
    PoolComplete nodes (pool.filter fun name => !(effectiveParent nodes name == place))
      (some name) := by
  intro below reach
  have apart : below ≠ place := by
    rintro rfl
    exact PlacedUnder.acyclic below (TransGen.tail' reach edge)
  rw [List.filter_filter, ← complete below (reach.tail edge)]
  apply List.filter_congr
  intro candidate _
  by_cases belongs : effectiveParent nodes candidate = below
  · simp only [belongs, BEq.rfl, Bool.true_and, Bool.not_eq_eq_eq_not, Bool.not_true,
      beq_eq_false_iff_ne, ne_eq, apart, not_false_eq_true]
  · simp only [beq_eq_false_iff_ne.2 belongs, Bool.false_and]

/-- The trees do not depend on the pool as long as it is complete. -/
theorem Menu.forest_eq {pool : List String} {place : Option String}
    (complete : PoolComplete nodes pool place) :
    forest nodes pool place = sortByRank ((childNames nodes place).map (tree nodes)) := by
  induction place using (wellFounded_placedUnder nodes).induction generalizing pool with
  | _ place ih =>
      rw [forest_unfold, complete place .refl]
      refine congrArg sortByRank (List.map_congr_left fun name mem => ?_)
      have edge := mem_childNames.1 mem
      have whole : PoolComplete nodes nodes.keys (some name) := fun _ _ => rfl
      rw [tree, under, ih _ edge (complete.descend edge), ih _ edge whole]

/-- A level is the sorted list of the trees placed there. -/
theorem Menu.under_eq (nodes : Keyed MenuNode) (place : Option String) :
    under nodes place = sortByRank ((childNames nodes place).map (tree nodes)) :=
  forest_eq fun _ _ => rfl

theorem Menu.under_perm (nodes : Keyed MenuNode) (place : Option String) :
    (under nodes place).Perm ((childNames nodes place).map (tree nodes)) := by
  rw [under_eq]
  exact List.mergeSort_perm _ _

theorem Menu.mem_under {place : Option String} {item : MenuItem} :
    item ∈ under nodes place ↔
      ∃ name, PlacedUnder nodes (some name) place ∧ item = tree nodes name := by
  rw [(under_perm nodes place).mem_iff, List.mem_map]
  constructor
  · intro holds
    rcases holds with ⟨name, mem, rfl⟩
    exact ⟨name, mem_childNames.1 mem, rfl⟩
  · intro holds
    rcases holds with ⟨name, edge, rfl⟩
    exact ⟨name, mem_childNames.2 edge, rfl⟩

/-! ## All levels -/

theorem Menu.flatten_tree (nodes : Keyed MenuNode) (name : String) :
    (tree nodes name).flatten =
      tree nodes name :: MenuItem.flattenAll (under nodes (some name)) := by
  rw [tree, MenuItem.flatten]

/-- The items under a place, at every depth, are the trees of the nodes below it. -/
theorem Menu.mem_flattenAll_under {place : Option String} {item : MenuItem} :
    item ∈ MenuItem.flattenAll (under nodes place) ↔
      ∃ name, TransGen (PlacedUnder nodes) (some name) place ∧ item = tree nodes name := by
  induction place using (wellFounded_placedUnder nodes).induction with
  | _ place ih =>
      rw [MenuItem.flattenAll_eq_flatMap, List.mem_flatMap]
      constructor
      · intro holds
        rcases holds with ⟨top, topMem, mem⟩
        obtain ⟨child, edge, rfl⟩ := mem_under.1 topMem
        rw [flatten_tree, List.mem_cons] at mem
        rcases mem with rfl | deeper
        · exact ⟨child, .single edge, rfl⟩
        · obtain ⟨name, path, rfl⟩ := (ih _ edge).1 deeper
          exact ⟨name, path.tail edge, rfl⟩
      · intro holds
        rcases holds with ⟨name, path, rfl⟩
        obtain ⟨above, rest, edge⟩ := TransGen.tail'_iff.1 path
        cases above with
        | none => exact (PlacedUnder.not_none edge).elim
        | some child =>
            refine ⟨tree nodes child, mem_under.2 ⟨child, edge, rfl⟩, ?_⟩
            rw [flatten_tree, List.mem_cons]
            rcases reflTransGen_iff_eq_or_transGen.1 rest with eq | path
            · exact Or.inl (congrArg (tree nodes) (Option.some.inj eq).symm)
            · exact Or.inr ((ih _ edge).2 ⟨name, path, rfl⟩)

/-! ## No item twice -/

/-- Two nodes placed under the same place have nothing below them in common. -/
theorem Menu.eq_of_common_descendant {place : Option String} {name first second : String}
    (below : ReflTransGen (PlacedUnder nodes) (some name) (some first))
    (alsoBelow : ReflTransGen (PlacedUnder nodes) (some name) (some second))
    (edge : PlacedUnder nodes (some first) place)
    (otherEdge : PlacedUnder nodes (some second) place) : first = second := by
  -- Along the one chain from `name` upwards, the two nodes would stand above each other.
  have ordered : ∀ {lower upper : String}, PlacedUnder nodes (some lower) place →
      PlacedUnder nodes (some upper) place →
      ReflTransGen (PlacedUnder nodes) (some lower) (some upper) → lower = upper := by
    intro lower upper lowerEdge upperEdge chain
    rcases chain.cases_head with eq | ⟨next, step, rest⟩
    · exact Option.some.inj eq
    · obtain rfl := lowerEdge.unique step
      exact (PlacedUnder.acyclic place (TransGen.tail' rest upperEdge)).elim
  have rightUnique : Relator.RightUnique (PlacedUnder nodes) :=
    fun _ _ _ first second => first.unique second
  rcases ReflTransGen.total_of_right_unique rightUnique below alsoBelow with chain | chain
  · exact ordered edge otherEdge chain
  · exact (ordered otherEdge edge chain).symm

theorem Menu.name_tree (nodes : Keyed MenuNode) (name : String) :
    (tree nodes name).name = name := rfl

/-- The names of a tree are those of its root and of the nodes below it. -/
theorem Menu.mem_names_flatten_tree {root name : String} :
    name ∈ (tree nodes root).flatten.map MenuItem.name ↔
      ReflTransGen (PlacedUnder nodes) (some name) (some root) := by
  rw [flatten_tree, List.map_cons, List.mem_cons, List.mem_map, reflTransGen_iff_eq_or_transGen,
    name_tree, Option.some_inj, eq_comm (a := root)]
  refine or_congr_right ⟨?_, fun path => ⟨_, mem_flattenAll_under.2 ⟨name, path, rfl⟩, rfl⟩⟩
  intro holds
  rcases holds with ⟨item, mem, rfl⟩
  obtain ⟨own, path, rfl⟩ := mem_flattenAll_under.1 mem
  exact path

/-- No name stands twice under a place, at whatever depth. -/
theorem Menu.nodup_names_under (nodes : Keyed MenuNode) (place : Option String) :
    ((MenuItem.flattenAll (under nodes place)).map MenuItem.name).Nodup := by
  induction place using (wellFounded_placedUnder nodes).induction with
  | _ place ih =>
      have perm : ((MenuItem.flattenAll (under nodes place)).map MenuItem.name).Perm
          ((childNames nodes place).flatMap fun name =>
            (tree nodes name).flatten.map MenuItem.name) := by
        rw [MenuItem.flattenAll_eq_flatMap, List.map_flatMap]
        exact ((under_perm nodes place).flatMap_right _).trans
          (List.Perm.of_eq (List.flatMap_map ..))
      rw [perm.nodup_iff, List.nodup_flatMap]
      constructor
      · intro name mem
        rw [flatten_tree, List.map_cons, List.nodup_cons]
        refine ⟨?_, ih _ (mem_childNames.1 mem)⟩
        intro again
        obtain ⟨item, itemMem, eq⟩ := List.mem_map.1 again
        obtain ⟨own, path, rfl⟩ := mem_flattenAll_under.1 itemMem
        obtain rfl : own = name := eq
        exact PlacedUnder.acyclic _ path
      · have distinct : (childNames nodes place).Nodup := nodes.nodup.filter _
        refine distinct.imp_of_mem fun {first second} firstMem secondMem ne => ?_
        intro name mem otherMem
        exact ne (eq_of_common_descendant (mem_names_flatten_tree.1 mem)
          (mem_names_flatten_tree.1 otherMem) (mem_childNames.1 firstMem)
          (mem_childNames.1 secondMem))

end PortalConfig
