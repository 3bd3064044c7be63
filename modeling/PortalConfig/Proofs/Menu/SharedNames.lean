import PortalConfig.Proofs.Menu.Precedence

/-!
# Routes that share the name of a node

The name of a route's node forgets slashes at both ends of the path and cannot tell a dot from a
slash inside it, nor the root path from `root`; beyond that it loses nothing
(`Menu.nodeName_eq_iff`). Of the routes that share a name the last one has the node, so a route
reaches the menu exactly when this one leads to the same page (`Menu.reached_iff_last_samePage`).
-/

namespace PortalConfig

/-! ## Names of nodes -/

/-- The paths are equal but for slashes at their ends. -/
def Menu.SamePage (path other : String) : Prop :=
  trimSlashes path.toList = trimSlashes other.toList

instance (path other : String) : Decidable (Menu.SamePage path other) :=
  inferInstanceAs (Decidable (_ = _))

/-- A text with dots for its slashes. -/
def Menu.dotted (text : List Char) : List Char :=
  text.map fun c => if c = '/' then '.' else c

/-- Apart from slashes at their ends the paths differ at most in dots and slashes, or one of them is
the root path and the other one is `root`. -/
def Menu.SharesName (path other : String) : Prop :=
  dotted (trimSlashes path.toList) = dotted (trimSlashes other.toList) ∨
    trimSlashes path.toList = [] ∧ trimSlashes other.toList = "root".toList ∨
    trimSlashes path.toList = "root".toList ∧ trimSlashes other.toList = []

theorem Menu.nodeName_of_root {path : String} (root : trimSlashes path.toList = []) :
    nodeName path = "root" := by
  rw [nodeName, root]

theorem Menu.nodeName_of_not_root {path : String} (inner : trimSlashes path.toList ≠ []) :
    nodeName path = String.ofList (dotted (trimSlashes path.toList)) := by
  unfold nodeName
  split
  · next root => exact (inner root).elim
  · rfl

theorem Menu.nodeName_congr {path other : String} (same : SamePage path other) :
    nodeName path = nodeName other := by
  unfold SamePage at same
  rw [nodeName, nodeName, same]

/-- Only a text without slashes is read as one without dots. -/
theorem Menu.dotted_eq_iff {text plain : List Char} (noDot : '.' ∉ plain) (noSlash : '/' ∉ plain) :
    dotted text = plain ↔ text = plain := by
  have unchanged : ∀ {chars : List Char}, '/' ∉ chars → dotted chars = chars := by
    intro chars absent
    have kept : ∀ c ∈ chars, (if c = '/' then '.' else c) = c := by
      intro c mem
      have ne : c ≠ '/' := fun eq => absent (eq ▸ mem)
      rw [if_neg ne]
    exact (List.map_congr_left kept).trans (List.map_id' chars)
  constructor
  · intro eq
    have absent : '/' ∉ text := by
      intro mem
      apply noDot
      rw [← eq]
      exact List.mem_map.2 ⟨'/', mem, rfl⟩
    rw [← eq, unchanged absent]
  · intro eq
    rw [eq, unchanged noSlash]

theorem Menu.dotted_eq_root_iff {text : List Char} :
    dotted text = "root".toList ↔ text = "root".toList :=
  dotted_eq_iff (by decide) (by decide)

theorem Menu.sharesName_comm {path other : String} :
    SharesName path other ↔ SharesName other path := by
  unfold SharesName
  rw [eq_comm, or_comm (a := trimSlashes path.toList = [] ∧ _), and_comm,
    and_comm (a := trimSlashes path.toList = [])]

theorem Menu.nodeName_eq_iff_of_root {path other : String} (root : trimSlashes path.toList = [])
    (inner : trimSlashes other.toList ≠ []) :
    nodeName path = nodeName other ↔ SharesName path other := by
  have apart : dotted [] ≠ dotted (trimSlashes other.toList) :=
    fun eq => inner (List.map_eq_nil_iff.1 eq.symm)
  rw [nodeName_of_root root, nodeName_of_not_root inner, SharesName, root]
  simp only [apart, inner, true_and, false_or, and_false, or_false]
  rw [← dotted_eq_root_iff, eq_comm, ← String.toList_inj, String.toList_ofList]

/-- Two paths have one node name exactly when they differ in what the name forgets. -/
theorem Menu.nodeName_eq_iff (path other : String) :
    nodeName path = nodeName other ↔ SharesName path other := by
  by_cases root : trimSlashes path.toList = []
  · by_cases otherRoot : trimSlashes other.toList = []
    · have same : SamePage path other := root.trans otherRoot.symm
      exact iff_of_true (nodeName_congr same) (Or.inl (congrArg dotted same))
    · exact nodeName_eq_iff_of_root root otherRoot
  · by_cases otherRoot : trimSlashes other.toList = []
    · rw [eq_comm, sharesName_comm]
      exact nodeName_eq_iff_of_root otherRoot root
    · rw [nodeName_of_not_root root, nodeName_of_not_root otherRoot, SharesName]
      simp only [root, otherRoot, false_and, and_false, or_false]
      rw [← String.toList_inj, String.toList_ofList, String.toList_ofList]

/-! ## Which routes reach the menu -/

variable {frontend : Frontend} {name : String} {route : Route} {item : RouteMenuText}

theorem Menu.of_routed?_eq_some (found : routed? frontend name = some (route, item)) :
    nodeName route.path = name ∧ route.menuItem = some (.text item) := by
  obtain ⟨own, -, chosen⟩ := List.mem_filterMap.1 (List.mem_of_getLast? found)
  split at chosen
  · next same =>
    obtain ⟨text, given, eq⟩ := Option.map_eq_some_iff.1 chosen
    obtain ⟨rfl, rfl⟩ := Prod.mk.inj eq
    exact ⟨same, Route.menuText?_eq_some_iff.1 given⟩
  · cases chosen

/-- A route with a text has a last one of its name, be it itself or another one. -/
theorem Menu.exists_routed? {fragment : Fragment} (fragmentMem : fragment ∈ frontend.fragments)
    (routeMem : route ∈ fragment.dynamicRoutes) (text : route.menuItem = some (.text item)) :
    ∃ last lastItem, routed? frontend (nodeName route.path) = some (last, lastItem) := by
  have listed : (route, item) ∈ (frontend.fragments.flatMap (·.dynamicRoutes)).filterMap
      fun own => if nodeName own.path = nodeName route.path then
        own.menuText?.map fun given => (own, given) else none := by
    refine List.mem_filterMap.2 ⟨route, List.mem_flatMap.2 ⟨fragment, fragmentMem, routeMem⟩, ?_⟩
    rw [if_pos rfl, Route.menuText?_eq_some_iff.2 text]
    rfl
  obtain ⟨⟨last, lastItem⟩, found⟩ := List.getLast?_isSome.2 (List.ne_nil_of_mem listed)
    |> Option.isSome_iff_exists.1
  exact ⟨last, lastItem, found⟩

/-- A page is reached through the menu when some item leads to it. -/
def Menu.Reached (frontend : Frontend) (path : String) : Prop :=
  ∃ item ∈ MenuItem.flattenAll (ofFrontend frontend), ∃ link,
    item.fields.link = some link ∧ SamePage link path

/-- The item of a name leads where the last route of the name does. -/
theorem Menu.exists_link_iff {link : String} :
    (∃ item ∈ MenuItem.flattenAll (ofFrontend frontend),
        item.name = name ∧ item.fields.link = some link) ↔
      ∃ last lastItem, routed? frontend name = some (last, lastItem) ∧ last.path = link := by
  have linked : (((nodes frontend).get? name).getD .blank).link =
      (routed? frontend name).map fun found => found.1.path := by
    rw [fields_get?_nodes]
  constructor
  · intro holds
    rcases holds with ⟨item, mem, rfl, leads⟩
    obtain ⟨own, -, rfl⟩ := mem_flattenAll_ofFrontend.1 mem
    obtain ⟨⟨last, lastItem⟩, found, same⟩ := Option.map_eq_some_iff.1 (linked.symm.trans leads)
    exact ⟨last, lastItem, found, same⟩
  · intro holds
    rcases holds with ⟨last, lastItem, found, rfl⟩
    rw [found, Option.map_some] at linked
    have present : name ∈ (nodes frontend).keys := by
      cases node : (nodes frontend).get? name with
      | none =>
          rw [node] at linked
          cases linked
      | some value => exact (Keyed.mem_keys_iff _ name).2 ⟨value, node⟩
    exact ⟨tree (nodes frontend) name, mem_flattenAll_ofFrontend.2 ⟨name, present, rfl⟩, rfl,
      linked⟩

/-- A path is reached exactly when the last route of its name leads to the same page. -/
theorem Menu.reached_iff_samePage {path : String} {last : Route} {lastItem : RouteMenuText}
    (found : routed? frontend (nodeName path) = some (last, lastItem)) :
    Reached frontend path ↔ SamePage last.path path := by
  constructor
  · intro holds
    rcases holds with ⟨item, mem, link, leads, same⟩
    obtain ⟨own, ownItem, ownFound, rfl⟩ := exists_link_iff.1 ⟨item, mem, rfl, leads⟩
    have sameName : item.name = nodeName path :=
      (of_routed?_eq_some ownFound).1.symm.trans (nodeName_congr same)
    rw [sameName, found] at ownFound
    obtain ⟨rfl, rfl⟩ := Prod.mk.inj (Option.some.inj ownFound)
    exact same
  · intro same
    obtain ⟨item, mem, -, leads⟩ := exists_link_iff.2 ⟨last, lastItem, found, rfl⟩
    exact ⟨item, mem, last.path, leads, same⟩

/-- **Of the routes that share a name the last one has the node.** A route with a text for its menu
item is reached through the menu exactly when the last such route of its name leads to the same
page. Names are shared exactly by paths that differ in what a name forgets. -/
theorem Menu.reached_iff_last_samePage {fragment : Fragment}
    (fragmentMem : fragment ∈ frontend.fragments) (routeMem : route ∈ fragment.dynamicRoutes)
    (text : route.menuItem = some (.text item)) :
    ∃ last lastItem, routed? frontend (nodeName route.path) = some (last, lastItem) ∧
      (∃ node ∈ MenuItem.flattenAll (ofFrontend frontend),
        node.name = nodeName route.path ∧ node.fields.link = some last.path) ∧
      (Reached frontend route.path ↔ SamePage last.path route.path) ∧
      ∀ other, nodeName other = nodeName route.path ↔ SharesName other route.path := by
  obtain ⟨last, lastItem, found⟩ := exists_routed? fragmentMem routeMem text
  exact ⟨last, lastItem, found, exists_link_iff.2 ⟨last, lastItem, found, rfl⟩,
    reached_iff_samePage found, fun other => nodeName_eq_iff other route.path⟩

/-- A route with nothing but a path and a text. -/
def Menu.plainRoute (path text : String) : Route :=
  ⟨path, none, none, some (.text ⟨text, "", none, none, none⟩), none⟩

/-- Two paths that differ in a dot and a slash, the root path and `root`, and one page twice. -/
def Menu.sharedNameSample : Frontend :=
  .ofDoc (.object
    [("acme.first", .object [("dynamicRoutes", .array
        [(plainRoute "/a.b" "Dot").encode, (plainRoute "/root" "Root").encode,
          (plainRoute "/docs" "Docs").encode])]),
      ("acme.second", .object [("dynamicRoutes", .array
        [(plainRoute "/a/b" "Slash").encode, (plainRoute "/" "Home").encode,
          (plainRoute "docs/" "Docs").encode])])])

theorem Menu.dynamicRoutes_sharedNameSample :
    sharedNameSample.fragments.map (·.dynamicRoutes) =
      [[plainRoute "/a.b" "Dot", plainRoute "/root" "Root", plainRoute "/docs" "Docs"],
        [plainRoute "/a/b" "Slash", plainRoute "/" "Home", plainRoute "docs/" "Docs"]] := rfl

theorem Menu.reached_iff_last_samePage_sharedNameSample :
    ∃ fragment ∈ sharedNameSample.fragments,
      (plainRoute "/root" "Root" ∈ fragment.dynamicRoutes ∧ ¬ Reached sharedNameSample "/root" ∧
        SharesName "/" "/root") ∧
      plainRoute "/docs" "Docs" ∈ fragment.dynamicRoutes ∧ Reached sharedNameSample "/docs" := by
  obtain ⟨fragment, mem, routes⟩ := List.mem_map.1
    (dynamicRoutes_sharedNameSample ▸ List.mem_cons_self :
      _ ∈ sharedNameSample.fragments.map (·.dynamicRoutes))
  have root : plainRoute "/root" "Root" ∈ fragment.dynamicRoutes := by
    rw [routes]
    exact List.mem_cons_of_mem _ List.mem_cons_self
  have docs : plainRoute "/docs" "Docs" ∈ fragment.dynamicRoutes := by
    rw [routes]
    exact List.mem_cons_of_mem _ (List.mem_cons_of_mem _ List.mem_cons_self)
  have lastRoot : routed? sharedNameSample (nodeName "/root") =
      some (plainRoute "/" "Home", ⟨"Home", "", none, none, none⟩) := rfl
  have lastDocs : routed? sharedNameSample (nodeName "/docs") =
      some (plainRoute "docs/" "Docs", ⟨"Docs", "", none, none, none⟩) := rfl
  obtain ⟨home, homeItem, homeFound, -, rootReached, shared⟩ :=
    reached_iff_last_samePage mem root rfl
  obtain ⟨page, pageItem, pageFound, -, docsReached, -⟩ := reached_iff_last_samePage mem docs rfl
  obtain ⟨rfl, -⟩ := Prod.mk.inj (Option.some.inj (lastRoot.symm.trans homeFound))
  obtain ⟨rfl, -⟩ := Prod.mk.inj (Option.some.inj (lastDocs.symm.trans pageFound))
  refine ⟨fragment, mem, ⟨root, ?_, (shared "/").1 (by decide +kernel)⟩, docs, ?_⟩
  · intro reached
    exact absurd (rootReached.1 reached) (by decide +kernel)
  · exact docsReached.2 (by decide +kernel : SamePage "docs/" "/docs")

/-- Not every route has its page in the menu: of `/a.b` and `/a/b` only the later one has. -/
theorem Menu.route_swallowed :
    ¬ ∀ frontend : Frontend, ∀ fragment ∈ frontend.fragments, ∀ route ∈ fragment.dynamicRoutes,
      (∃ item, route.menuItem = some (.text item)) → Reached frontend route.path := by
  intro all
  obtain ⟨fragment, mem, routes⟩ := List.mem_map.1
    (dynamicRoutes_sharedNameSample ▸ List.mem_cons_self :
      _ ∈ sharedNameSample.fragments.map (·.dynamicRoutes))
  have found : routed? sharedNameSample (nodeName "/a.b") =
      some (plainRoute "/a/b" "Slash", ⟨"Slash", "", none, none, none⟩) := rfl
  have reached := all sharedNameSample fragment mem (plainRoute "/a.b" "Dot")
    (routes ▸ List.mem_cons_self) ⟨_, rfl⟩
  have same : SamePage "/a/b" "/a.b" := (reached_iff_samePage found).1 reached
  exact absurd same (by decide +kernel)

end PortalConfig
