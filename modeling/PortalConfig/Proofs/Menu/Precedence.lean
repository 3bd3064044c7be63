import PortalConfig.Proofs.Menu.Placement

/-!
# Where the fields of a menu node come from

Routes give a node as a whole, the last route of a name in place of those before it, while overrides
set field by field, the last scope that sets a field deciding on that field alone. An override wins
over a route wherever their scopes stand. `Menu.fields_eq_of_mem` says so for every item of the
menu: each of its fields is named by the last scope that sets it and, failing that, by the last
route.
-/

namespace PortalConfig

variable {α : Type}

/-! ## What the scopes say -/

/-- What the last scope that sets a field of a node sets it to. -/
def Menu.overridden? (frontend : Frontend) (name : String) (field : MenuOverride → Option α) :
    Option α :=
  (frontend.fragments.filterMap fun fragment =>
    (fragment.menuItems.get? name).bind field).getLast?

/-- The last route with the name that has a text for its menu item, and this text. -/
def Menu.routed? (frontend : Frontend) (name : String) : Option (Route × RouteMenuText) :=
  ((frontend.fragments.flatMap (·.dynamicRoutes)).filterMap fun route =>
    if nodeName route.path = name then route.menuText?.map fun item => (route, item)
    else none).getLast?

/-- A field of overrides: unset where nothing is set, and of two overrides the later one sets it if
it can. -/
structure MenuOverride.IsField (field : MenuOverride → Option α) : Prop where
  unset : field .none = .none
  andThen : ∀ earlier later, field (earlier.andThen later) = (field later).or (field earlier)

/-! ## Overrides -/

/-- A run of overrides leaves in a field of a node what the last of them that sets it says. -/
theorem MenuOverride.IsField.bind_get?_foldl {field : MenuOverride → Option α}
    (law : IsField field) (entries : List (String × MenuOverride)) (name : String) :
    ((entries.foldl (fun acc entry => acc.upsert entry.1 fun present =>
        (present.getD .none).andThen entry.2) Keyed.empty).get? name).bind field =
      (entries.filterMap fun entry =>
        if entry.1 = name then field entry.2 else .none).getLast? := by
  induction entries using List.reverseRecOn with
  | nil => rfl
  | append_singleton entries entry ih =>
      rw [List.foldl_concat, List.filterMap_append, List.filterMap_cons, List.filterMap_nil,
        List.getLast?_append, ← ih]
      by_cases same : entry.1 = name
      · subst same
        rw [Keyed.get?_upsert_self, Option.bind_some, law.andThen, if_pos rfl]
        have before : ∀ present : Option MenuOverride,
            field (present.getD .none) = present.bind field := by
          intro present
          cases present with
          | none => exact law.unset
          | some item => rfl
        rw [before]
        cases field entry.2 <;> rfl
      · rw [Keyed.get?_upsert_of_ne _ _ (Ne.symm same), if_neg same]
        rfl

theorem Menu.bind_get?_mergedOverrides (frontend : Frontend) (name : String)
    (field : MenuOverride → Option α) (law : MenuOverride.IsField field) :
    ((mergedOverrides frontend).get? name).bind field = overridden? frontend name field := by
  refine (law.bind_get?_foldl (overrides frontend) name).trans ?_
  rw [overrides, List.filterMap_flatMap, overridden?, List.filterMap_eq_flatMap_toList]
  congr 1
  refine List.flatMap_congr fun fragment _ => ?_
  exact Members.filterMap_eq_of_nodup fragment.menuItems.nodup name field

/-! ## Routes -/

/-- Of the nodes that routes contribute under a name the last one is kept. -/
theorem Menu.get?_ofList_routeNodes (frontend : Frontend) (name : String) :
    (Keyed.ofList (routeNodes frontend)).get? name =
      (routed? frontend name).map fun found => .ofRoute found.1.path found.2 := by
  rw [Keyed.get?_ofList, routed?, ← List.getLast?_map, List.map_filterMap, routeNodes,
    ← List.filterMap_flatMap, List.filterMap_filterMap]
  congr 1
  refine List.filterMap_congr fun route _ => ?_
  cases route.menuText? with
  | none => split <;> rfl
  | some item =>
      change (if nodeName route.path = name then _ else _) = _
      split <;> rfl

/-! ## Nodes -/

/-- A node is the one of its last route, or a blank one, with its overrides applied. -/
theorem Menu.get?_nodes (frontend : Frontend) (name : String) :
    (nodes frontend).get? name =
      (((mergedOverrides frontend).get? name).map fun item =>
        (((Keyed.ofList (routeNodes frontend)).get? name).getD .blank).override item).or
      ((Keyed.ofList (routeNodes frontend)).get? name) :=
  Keyed.get?_foldl_upsert (fun item present => (present.getD MenuNode.blank).override item)
    (mergedOverrides frontend).nodup _ name

/-- The fields of a node: those that overrides set, and below them those of the last route. -/
theorem Menu.fields_get?_nodes (frontend : Frontend) (name : String) :
    ((nodes frontend).get? name).getD .blank =
      { title := (overridden? frontend name (·.title)).getD
          ((routed? frontend name).elim "" (·.2.text))
        icon := (overridden? frontend name (·.icon)).getD
          ((routed? frontend name).elim "" (·.2.icon))
        priority := (overridden? frontend name (·.priority)).or
          ((routed? frontend name).bind (·.2.priority))
        link := (routed? frontend name).map (·.1.path)
        parent := (overridden? frontend name (·.parent)).or
          ((routed? frontend name).bind (·.2.parent))
        enabled := (routed? frontend name).bind (·.2.enabled) } := by
  have title := bind_get?_mergedOverrides frontend name (·.title) ⟨rfl, fun _ _ => rfl⟩
  have icon := bind_get?_mergedOverrides frontend name (·.icon) ⟨rfl, fun _ _ => rfl⟩
  have priority := bind_get?_mergedOverrides frontend name (·.priority) ⟨rfl, fun _ _ => rfl⟩
  have parent := bind_get?_mergedOverrides frontend name (·.parent) ⟨rfl, fun _ _ => rfl⟩
  rw [get?_nodes, get?_ofList_routeNodes, ← title, ← icon, ← priority, ← parent]
  cases (mergedOverrides frontend).get? name <;> cases routed? frontend name <;> rfl

/-- **Precedence.** For each of title, icon, priority and parent an item of the menu has what the
last scope that sets the field sets it to, else what the last route of its name gives, else nothing.
Its target and whether it is enabled come from that route alone. -/
theorem Menu.fields_eq_of_mem {frontend : Frontend} {item : MenuItem}
    (mem : item ∈ MenuItem.flattenAll (ofFrontend frontend)) :
    item.fields =
      { title := (overridden? frontend item.name (·.title)).getD
          ((routed? frontend item.name).elim "" (·.2.text))
        icon := (overridden? frontend item.name (·.icon)).getD
          ((routed? frontend item.name).elim "" (·.2.icon))
        priority := (overridden? frontend item.name (·.priority)).or
          ((routed? frontend item.name).bind (·.2.priority))
        link := (routed? frontend item.name).map (·.1.path)
        parent := (overridden? frontend item.name (·.parent)).or
          ((routed? frontend item.name).bind (·.2.parent))
        enabled := (routed? frontend item.name).bind (·.2.enabled) } := by
  obtain ⟨name, -, rfl⟩ := mem_flattenAll_ofFrontend.1 mem
  exact fields_get?_nodes frontend name

/-- Overrides before and after the routes of the node that they name, two routes of one name of
which only the first has a priority, and an override without a route. -/
def Menu.sampleFrontend : Frontend :=
  .ofDoc (.object
    [("acme.early", .object [("menuItems", .object
        [("docs", .object [("title", .string "Early"), ("icon", .string "book")])])]),
      ("acme.routes", .object [("dynamicRoutes", .array
        [.object [("path", .string "/docs"), ("importName", .string "A"), ("menuItem", .object
            [("text", .string "Old"), ("priority", .int 5), ("parent", .string "admin")])],
          .object [("path", .string "docs/"), ("importName", .string "B"), ("menuItem", .object
            [("text", .string "New"), ("icon", .string "page"), ("enabled", .bool false)])]])]),
      ("acme.late", .object [("menuItems", .object
        [("docs", .object [("title", .string "Late")]),
          ("admin", .object [("priority", .int 1)])])])])

theorem Menu.fields_eq_of_mem_sampleFrontend :
    (∃ item ∈ MenuItem.flattenAll (ofFrontend sampleFrontend), item.name = "docs" ∧
        item.fields = ⟨"Late", "book", none, some "docs/", none, some false⟩) ∧
      ∃ item ∈ MenuItem.flattenAll (ofFrontend sampleFrontend), item.name = "admin" ∧
        item.fields = ⟨"", "", some 1, none, none, none⟩ := by
  have docs : tree (nodes sampleFrontend) "docs" ∈
      MenuItem.flattenAll (ofFrontend sampleFrontend) :=
    mem_flattenAll_ofFrontend.2 ⟨"docs", by decide +kernel, rfl⟩
  have admin : tree (nodes sampleFrontend) "admin" ∈
      MenuItem.flattenAll (ofFrontend sampleFrontend) :=
    mem_flattenAll_ofFrontend.2 ⟨"admin", by decide +kernel, rfl⟩
  refine ⟨⟨_, docs, rfl, (fields_eq_of_mem docs).trans ?_⟩,
    ⟨_, admin, rfl, (fields_eq_of_mem admin).trans ?_⟩⟩
  · decide +kernel
  · decide +kernel

end PortalConfig
