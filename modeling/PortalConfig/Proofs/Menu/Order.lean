import PortalConfig.Proofs.Menu.Placement

/-!
# The order of siblings

A level of the menu is a stable sort of the names placed there, which stand in the order of the
nodes. That order is fixed by the scopes: the names of routes in the order of their first routes,
then the names that only `menuItems` entries have (`Menu.keys_nodes`). So siblings of different
rank stand by descending rank and those of equal rank by the order of the nodes
(`Menu.precedes_iff_rank`).
-/

namespace PortalConfig

universe u

/-! ## Standing in front -/

section Precedes

variable {α : Type u} {items : List α} {first second : α}

/-- The first thing stands somewhere in front of the second one. -/
def Precedes (items : List α) (first second : α) : Prop :=
  [first, second].Sublist items

theorem Precedes.of_filter {p : α → Bool} (precedes : Precedes (items.filter p) first second) :
    Precedes items first second :=
  List.Sublist.trans precedes List.filter_sublist

theorem precedes_filter_iff {p : α → Bool} (keepsFirst : p first = true)
    (keepsSecond : p second = true) :
    Precedes (items.filter p) first second ↔ Precedes items first second := by
  constructor
  · exact Precedes.of_filter
  · intro precedes
    have kept : [first, second].filter p = [first, second] := by
      rw [List.filter_cons_of_pos keepsFirst, List.filter_cons_of_pos keepsSecond, List.filter_nil]
    have filtered := List.Sublist.filter p precedes
    rw [kept] at filtered
    exact filtered

/-- Relabelling a list by something that can be undone keeps what stands in front of what. -/
theorem precedes_map_iff {β : Type u} {f : α → β} {back : β → α} (undone : ∀ a, back (f a) = a) :
    Precedes (items.map f) (f first) (f second) ↔ Precedes items first second := by
  constructor
  · intro precedes
    have whole : (items.map f).map back = items := by
      rw [List.map_map]
      exact List.map_id'' undone items
    have mapped := List.Sublist.map back precedes
    rw [whole, List.map_cons, List.map_cons, List.map_nil, undone, undone] at mapped
    exact mapped
  · intro precedes
    exact List.Sublist.map f precedes

/-- Of two different things in a list one stands in front of the other. -/
theorem precedes_or_precedes (firstMem : first ∈ items) (secondMem : second ∈ items)
    (ne : first ≠ second) : Precedes items first second ∨ Precedes items second first := by
  induction items with
  | nil => cases firstMem
  | cons head rest ih =>
      rcases List.mem_cons.1 firstMem with rfl | firstLater
      · have secondLater : second ∈ rest := (List.mem_cons.1 secondMem).resolve_left (Ne.symm ne)
        exact Or.inl (List.cons_sublist_cons.2 (List.singleton_sublist.2 secondLater))
      · rcases List.mem_cons.1 secondMem with rfl | secondLater
        · exact Or.inr (List.cons_sublist_cons.2 (List.singleton_sublist.2 firstLater))
        · exact (ih firstLater secondLater).imp (List.Sublist.cons head) (List.Sublist.cons head)

/-- Where nothing is repeated, no two things stand in front of each other. -/
theorem Precedes.asymm (distinct : items.Nodup) (precedes : Precedes items first second) :
    ¬ Precedes items second first := by
  intro reversed
  induction items with
  | nil => cases precedes
  | cons head rest ih =>
      obtain ⟨absent, distinctRest⟩ := List.nodup_cons.1 distinct
      rcases List.sublist_cons_iff.1 precedes with later | ⟨tail, eq, inRest⟩
      · rcases List.sublist_cons_iff.1 reversed with alsoLater | ⟨tail, eq, inRest⟩
        · exact ih distinctRest later alsoLater
        · obtain ⟨rfl, rfl⟩ := List.cons.inj eq
          exact absent (later.subset (List.mem_cons_of_mem _ List.mem_cons_self))
      · obtain ⟨rfl, rfl⟩ := List.cons.inj eq
        have secondMem : second ∈ rest := inRest.subset List.mem_cons_self
        rcases List.sublist_cons_iff.1 reversed with alsoLater | ⟨tail, eq, inRest⟩
        · exact absent (alsoLater.subset (List.mem_cons_of_mem _ List.mem_cons_self))
        · obtain ⟨rfl, rfl⟩ := List.cons.inj eq
          exact absent secondMem

theorem Precedes.ne (distinct : items.Nodup) (precedes : Precedes items first second) :
    first ≠ second := by
  rintro rfl
  exact precedes.asymm distinct precedes

/-- A stable sort puts one thing in front of another exactly when it may stand there and, if it may
also stand behind, stood in front before. -/
theorem precedes_mergeSort_iff {le : α → α → Bool} (trans : ∀ a b c, le a b → le b c → le a c)
    (total : ∀ a b, le a b || le b a) (distinct : items.Nodup) (firstMem : first ∈ items)
    (secondMem : second ∈ items) (ne : first ≠ second) :
    Precedes (items.mergeSort le) first second ↔
      le first second ∧ (le second first → Precedes items first second) := by
  have perm := List.mergeSort_perm items le
  have ordered : ∀ {a b}, Precedes (items.mergeSort le) a b → le a b :=
    fun precedes => List.pairwise_iff_forall_sublist.1 (List.pairwise_mergeSort trans total items)
      precedes
  constructor
  · intro precedes
    refine ⟨ordered precedes, fun back => ?_⟩
    rcases precedes_or_precedes firstMem secondMem ne with before | after
    · exact before
    · have reversed : Precedes (items.mergeSort le) second first :=
        List.pair_sublist_mergeSort trans total back after
      exact (precedes.asymm (perm.nodup_iff.2 distinct) reversed).elim
  · intro holds
    rcases holds with ⟨may, ties⟩
    by_cases back : le second first
    · exact List.pair_sublist_mergeSort trans total may (ties back)
    · rcases precedes_or_precedes (perm.mem_iff.2 firstMem) (perm.mem_iff.2 secondMem) ne with
        before | after
      · exact before
      · exact (back (ordered after)).elim

end Precedes

/-! ## The order of the nodes -/

/-- The names of the routes that have a text for a menu item, over scopes and lists. -/
def Menu.routeNames (frontend : Frontend) : List String :=
  frontend.fragments.flatMap fun fragment => fragment.dynamicRoutes.filterMap fun route =>
    route.menuText?.map fun _ => nodeName route.path

/-- The names under which `menuItems` have entries, over scopes and maps. -/
def Menu.overrideNames (frontend : Frontend) : List String :=
  frontend.fragments.flatMap fun fragment => fragment.menuItems.keys

/-- The names of routes in the order of their first routes, then the names that only `menuItems`
have, in the order of their first entries. -/
def Menu.aggregationOrder (frontend : Frontend) : List String :=
  (routeNames frontend).eraseDups ++
    (overrideNames frontend).eraseDups.filter (· ∉ routeNames frontend)

theorem Menu.keys_routeNodes (frontend : Frontend) :
    Members.keys (routeNodes frontend) = routeNames frontend := by
  simp only [Members.keys, routeNodes, routeNames, List.map_flatMap, List.map_filterMap,
    Option.map_map]
  rfl

theorem Menu.keys_overrides (frontend : Frontend) :
    Members.keys (overrides frontend) = overrideNames frontend := by
  simp only [Members.keys, overrides, overrideNames, List.map_flatMap]
  rfl

theorem Menu.keys_mergedOverrides (frontend : Frontend) :
    (mergedOverrides frontend).keys = (overrideNames frontend).eraseDups := by
  rw [← keys_overrides]
  exact Keyed.keys_foldl_upsert Prod.fst
    (fun entry present => (present.getD MenuOverride.none).andThen entry.2) (overrides frontend)
    .empty

theorem Menu.keys_nodes (frontend : Frontend) :
    (nodes frontend).keys = aggregationOrder frontend := by
  have routes : (Keyed.ofList (routeNodes frontend)).keys = (routeNames frontend).eraseDups := by
    rw [Keyed.keys_ofList, keys_routeNodes]
  have distinctRoutes : (routeNames frontend).eraseDups.Nodup :=
    routes ▸ (Keyed.ofList (routeNodes frontend)).nodup
  have distinctOverrides : (overrideNames frontend).eraseDups.Nodup :=
    keys_mergedOverrides frontend ▸ (mergedOverrides frontend).nodup
  have run : (nodes frontend).keys =
      ((Keyed.ofList (routeNodes frontend)).keys ++ (mergedOverrides frontend).keys).eraseDups :=
    Keyed.keys_foldl_upsert Prod.fst
      (fun entry present => (present.getD MenuNode.blank).override entry.2)
      (mergedOverrides frontend).members (.ofList (routeNodes frontend))
  rw [run, routes, keys_mergedOverrides, eraseDups_append_of_nodup distinctRoutes,
    eraseDups_of_nodup (distinctOverrides.filter _), aggregationOrder]
  simp only [List.mem_eraseDups]

/-! ## Levels of the menu -/

/-- The items form one level of the menu: its roots, or the children of an item at any depth. -/
def MenuItem.IsLevelOf (siblings roots : List MenuItem) : Prop :=
  siblings = roots ∨ ∃ item ∈ flattenAll roots, siblings = item.children

theorem Menu.eq_under_of_isLevelOf {frontend : Frontend} {siblings : List MenuItem}
    (level : MenuItem.IsLevelOf siblings (ofFrontend frontend)) :
    ∃ place, siblings = under (nodes frontend) place := by
  rcases level with rfl | ⟨item, mem, rfl⟩
  · exact ⟨none, rfl⟩
  · obtain ⟨name, -, rfl⟩ := mem_flattenAll_ofFrontend.1 mem
    exact ⟨some name, rfl⟩

theorem Menu.precedes_childNames_iff {nodes : Keyed MenuNode} {place : Option String}
    {first second : String} (firstEdge : PlacedUnder nodes (some first) place)
    (secondEdge : PlacedUnder nodes (some second) place) :
    Precedes (childNames nodes place) first second ↔ Precedes nodes.keys first second :=
  precedes_filter_iff (List.mem_filter.1 (mem_childNames.2 firstEdge)).2
    (List.mem_filter.1 (mem_childNames.2 secondEdge)).2

theorem Menu.nodup_under (nodes : Keyed MenuNode) (place : Option String) :
    (under nodes place).Nodup := by
  rw [(under_perm nodes place).nodup_iff]
  exact List.Nodup.map (fun _ _ same => congrArg MenuItem.name same) (nodes.nodup.filter _)

theorem Menu.rank_trans (a b c : MenuItem) (ab : decide (b.fields.rank ≤ a.fields.rank))
    (bc : decide (c.fields.rank ≤ b.fields.rank)) : decide (c.fields.rank ≤ a.fields.rank) := by
  simp only [decide_eq_true_eq] at ab bc ⊢
  exact Int64.le_trans bc ab

theorem Menu.rank_total (a b : MenuItem) :
    decide (b.fields.rank ≤ a.fields.rank) || decide (a.fields.rank ≤ b.fields.rank) := by
  simp only [Bool.or_eq_true, decide_eq_true_eq]
  exact Int64.le_total _ _

/-- The ranks of a level descend. -/
theorem Menu.pairwise_ranks_under (nodes : Keyed MenuNode) (place : Option String) :
    ((under nodes place).map fun item => item.fields.rank).Pairwise fun a b => b ≤ a := by
  have sorted := List.pairwise_mergeSort rank_trans rank_total
    ((childNames nodes place).map (tree nodes))
  rw [under_eq, sortByRank, List.pairwise_map]
  simpa only [decide_eq_true_eq] using sorted

/-- On a level, rank decides, and the order of the nodes among equal ranks. -/
theorem Menu.precedes_under_iff {nodes : Keyed MenuNode} {place : Option String}
    {first second : MenuItem} (firstMem : first ∈ under nodes place)
    (secondMem : second ∈ under nodes place) (ne : first ≠ second) :
    Precedes (under nodes place) first second ↔
      second.fields.rank ≤ first.fields.rank ∧
        (first.fields.rank ≤ second.fields.rank →
          Precedes nodes.keys first.name second.name) := by
  have perm := under_perm nodes place
  have sorted := precedes_mergeSort_iff rank_trans rank_total
    (perm.nodup_iff.1 (nodup_under nodes place)) (perm.mem_iff.1 firstMem)
    (perm.mem_iff.1 secondMem) ne
  obtain ⟨firstName, firstEdge, rfl⟩ := mem_under.1 firstMem
  obtain ⟨secondName, secondEdge, rfl⟩ := mem_under.1 secondMem
  rw [under_eq, sortByRank, sorted, precedes_map_iff (name_tree nodes),
    precedes_childNames_iff firstEdge secondEdge]
  simp only [decide_eq_true_eq, name_tree]

/-- **Siblings** stand by descending rank, and those of equal rank in the order in which the scopes
first contribute their names. -/
theorem Menu.precedes_iff_rank (frontend : Frontend) {siblings : List MenuItem}
    (level : MenuItem.IsLevelOf siblings (ofFrontend frontend)) {first second : MenuItem}
    (firstMem : first ∈ siblings) (secondMem : second ∈ siblings) :
    Precedes siblings first second ↔
      second.fields.rank < first.fields.rank ∨
        first.fields.rank = second.fields.rank ∧
          Precedes (aggregationOrder frontend) first.name second.name := by
  obtain ⟨place, rfl⟩ := eq_under_of_isLevelOf level
  rw [← keys_nodes]
  constructor
  · intro precedes
    have ne := precedes.ne (nodup_under (nodes frontend) place)
    obtain ⟨least, ties⟩ := (precedes_under_iff firstMem secondMem ne).1 precedes
    by_cases equal : first.fields.rank ≤ second.fields.rank
    · exact Or.inr ⟨Int64.le_antisymm equal least, ties equal⟩
    · exact Or.inl (Int64.not_le.1 equal)
  · rintro (greater | ⟨equal, before⟩)
    · have ne : first ≠ second := by
        rintro rfl
        exact Int64.lt_irrefl greater
      exact (precedes_under_iff firstMem secondMem ne).2
        ⟨Int64.le_of_lt greater, fun le => (Int64.not_le.2 greater le).elim⟩
    · have ne : first ≠ second := by
        rintro rfl
        exact before.ne (nodes frontend).nodup rfl
      exact (precedes_under_iff firstMem secondMem ne).2
        ⟨equal ▸ Int64.le_refl _, fun _ => before⟩

/-- Roots with the two extreme priorities, the smaller one declared first, and two routes below a
group whose node comes last: one of them is declared again, the other one has an explicit zero. -/
def Menu.siblingSample : Frontend :=
  .ofDoc (.object
    [("acme.routes", .object [("dynamicRoutes", .array
        [.object [("path", .string "/b"), ("importName", .string "B"), ("menuItem", .object
            [("text", .string "Old"), ("icon", .string ""), ("priority", .int 9)])],
          .object [("path", .string "/a"), ("importName", .string "A"), ("menuItem", .object
            [("text", .string "A"), ("icon", .string ""), ("parent", .string "group"),
              ("priority", .int 0)])],
          .object [("path", .string "/b/"), ("importName", .string "B"), ("menuItem", .object
            [("text", .string "B"), ("icon", .string ""), ("parent", .string "group")])]])]),
      ("acme.items", .object [("menuItems", .object
        [("bottom", .object [("priority", .int (-9223372036854775808))]),
          ("top", .object [("priority", .int 9223372036854775807)]),
          ("group", .object [])])])])

theorem Menu.precedes_iff_rank_siblingSample :
    (∃ siblings first second, MenuItem.IsLevelOf siblings (ofFrontend siblingSample) ∧
        first ∈ siblings ∧ second ∈ siblings ∧
        first.name = "top" ∧ first.fields.priority = some Int64.maxValue ∧
        second.name = "bottom" ∧ second.fields.priority = some Int64.minValue ∧
        Precedes siblings first second) ∧
      ∃ siblings first second, MenuItem.IsLevelOf siblings (ofFrontend siblingSample) ∧
        first ∈ siblings ∧ second ∈ siblings ∧
        first.name = "b" ∧ first.fields.priority = none ∧
        second.name = "a" ∧ second.fields.priority = some 0 ∧
        Precedes siblings first second := by
  have roots : MenuItem.IsLevelOf (ofFrontend siblingSample) (ofFrontend siblingSample) :=
    Or.inl rfl
  have top : tree (nodes siblingSample) "top" ∈ ofFrontend siblingSample :=
    mem_under.2 ⟨"top", ⟨"top", by decide +kernel, rfl, by decide +kernel⟩, rfl⟩
  have bottom : tree (nodes siblingSample) "bottom" ∈ ofFrontend siblingSample :=
    mem_under.2 ⟨"bottom", ⟨"bottom", by decide +kernel, rfl, by decide +kernel⟩, rfl⟩
  have group : tree (nodes siblingSample) "group" ∈
      MenuItem.flattenAll (ofFrontend siblingSample) :=
    mem_flattenAll_ofFrontend.2 ⟨"group", by decide +kernel, rfl⟩
  have children : MenuItem.IsLevelOf (tree (nodes siblingSample) "group").children
      (ofFrontend siblingSample) :=
    Or.inr ⟨_, group, rfl⟩
  have b : tree (nodes siblingSample) "b" ∈ (tree (nodes siblingSample) "group").children :=
    mem_under.2 ⟨"b", ⟨"b", by decide +kernel, rfl, by decide +kernel⟩, rfl⟩
  have a : tree (nodes siblingSample) "a" ∈ (tree (nodes siblingSample) "group").children :=
    mem_under.2 ⟨"a", ⟨"a", by decide +kernel, rfl, by decide +kernel⟩, rfl⟩
  refine ⟨⟨_, _, _, roots, top, bottom, rfl, by decide +kernel, rfl, by decide +kernel,
      (precedes_iff_rank siblingSample roots top bottom).2 (Or.inl (by decide +kernel))⟩,
    ⟨_, _, _, children, b, a, rfl, by decide +kernel, rfl, by decide +kernel,
      (precedes_iff_rank siblingSample children b a).2 (Or.inr ⟨by decide +kernel, ?_⟩)⟩⟩
  change List.Sublist ["b", "a"] (aggregationOrder siblingSample)
  decide +kernel

end PortalConfig
