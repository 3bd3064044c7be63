import PortalConfig.Plugin.Registry
import PortalConfig.Proofs.Category

/-!
# Aggregation

The registry is filled scope by scope, all of its lists at once. `Registry.listings` are its lists,
the menu apart, each with the category that feeds it and with what becomes of an entry there; the
block of a scope in a list is what its fragment contributes. A step over one scope puts its block
behind every list (`Registry.Listing.lawful_of_mem`), so a run over scopes puts their blocks there
in their order (`Registry.Listing.Lawful.list_foldl`). Nothing is lost, mixed up or moved between
scopes or categories (`Frontend.resolve_flattens`).
-/

namespace PortalConfig

/-! ## The lists of the registry -/

/-- A list of the registry and how it is filled. -/
structure Registry.Listing where
  /-- The category that feeds the list. -/
  category : Fragment.Category
  /-- What a fragment declares for the list. -/
  Entry : Type
  /-- What stands in the list. -/
  Registered : Type
  entries : category.Content → List Entry
  register? : String → Entry → Option Registered
  list : Registry → List Registered
  /-- The scope that a registered entry carries, if the list has a place for it. -/
  scope? : Registered → Option String
  /-- The entries that cannot be registered. -/
  Refused : Entry → Prop

namespace Registry.Listing

variable {Entry Registered : Type}

/-- A list of entries whose defaults are filled in. -/
def defaulted (category : Fragment.Category) (entries : category.Content → List Entry)
    (resolve : String → Entry → Registered) (list : Registry → List Registered)
    (scope : Registered → String) : Listing where
  category
  Entry
  Registered
  entries
  register? scope entry := some (resolve scope entry)
  list
  scope? entry := some (scope entry)
  Refused _ := False

/-- A list of entries that are registered as they are. -/
def verbatim (category : Fragment.Category) (entries : category.Content → List Entry)
    (list : Registry → List Entry) : Listing where
  category
  Entry
  Registered := Entry
  entries
  register? _ entry := some entry
  list
  scope? _ := none
  Refused _ := False

/-- The modules: every scope has one, declared or not. -/
def pluginModules : Listing :=
  defaulted .pluginModule (fun module => [module])
    (fun scope module => { scope, module := module.getD defaultModule }) (·.pluginModules) (·.scope)

/-- The sign-in pages: a scope has at most one, and only pages with an export are registered. -/
def signInPages : Listing where
  category := .signInPage
  Entry := SignInPage
  Registered := ImportEntry
  entries page := page.toList
  register? scope page := page.resolve? scope
  list := (·.signInPages)
  scope? entry := some entry.scope
  Refused page := page.importName = none ∨ page.importName = some ""

/-- What a scope contributes to a list. -/
def block (listing : Listing) (member : String × Fragment) : List listing.Registered :=
  (listing.entries (listing.category.content member.2)).filterMap (listing.register? member.1)

end Registry.Listing

/-- The lists of the registry, the menu apart. -/
def Registry.listings : List Registry.Listing :=
  [.pluginModules,
    .defaulted .apiFactories id ModuleImport.resolve (·.apiFactories) (·.scope),
    .defaulted .analyticsApiExtensions id ModuleImport.resolve (·.analyticsApiExtensions) (·.scope),
    .defaulted .appIcons id AppIcon.resolve (·.appIcons) (·.scope),
    .defaulted .dynamicRoutes id Route.resolve (·.dynamicRoutes) (·.scope),
    .defaulted .entityTabs id EntityTab.resolve (·.entityTabs) (·.scope),
    .defaulted .mountPoints id MountPoint.resolve (·.mountPoints) (·.scope),
    .verbatim .routeBindings (·.bindings) (·.routeBindings),
    .defaulted .routeBindings (·.targets) BindingTarget.resolve (·.routeBindingTargets) (·.scope),
    .verbatim .providerSettings id (·.providerSettings),
    .defaulted .scaffolderFieldExtensions id ModuleImport.resolve (·.scaffolderFieldExtensions)
      (·.scope),
    .signInPages,
    .defaulted .techdocsAddons id TechdocsAddon.resolve (·.techdocsAddons) (·.scope),
    .defaulted .themes id Theme.resolve (·.themes) (·.scope),
    .defaulted .localeResources id LocaleResource.resolve (·.localeResources) (·.scope)]

/-! ## How the lists are filled -/

/-- How a list is filled: it starts empty, every scope puts its block behind what is there, and the
menu has no part in it. What is not registered is refused, and what is carries the scope it comes
from. -/
structure Registry.Listing.Lawful (listing : Listing) : Prop where
  started : listing.list .empty = []
  step (registry : Registry) (member : String × Fragment) :
    listing.list (registry.addScope member) = listing.list registry ++ listing.block member
  besideMenu (registry : Registry) (menuItems : List MenuItem) :
    listing.list { registry with menuItems } = listing.list registry
  refused (scope : String) (entry : listing.Entry) :
    listing.register? scope entry = none ↔ listing.Refused entry
  ownScope (scope : String) (entry : listing.Entry) (registered : listing.Registered)
    (own : String) : listing.register? scope entry = some registered →
    listing.scope? registered = some own → own = scope

section

variable {Entry Registered : Type} {category : Fragment.Category}
  {entries : category.Content → List Entry}

theorem Registry.Listing.block_defaulted (resolve : String → Entry → Registered)
    (list : Registry → List Registered) (scopeOf : Registered → String)
    (member : String × Fragment) :
    (defaulted category entries resolve list scopeOf).block member =
      (entries (category.content member.2)).map (resolve member.1) := by
  rw [← List.filterMap_eq_map]
  rfl

theorem Registry.Listing.lawful_defaulted {resolve : String → Entry → Registered}
    {list : Registry → List Registered} {scopeOf : Registered → String}
    (started : list .empty = [])
    (step : ∀ registry scope fragment, list (registry.addScope (scope, fragment)) =
      extend (list registry) resolve scope (entries (category.content fragment)))
    (besideMenu : ∀ registry menuItems,
      list { registry with menuItems } = list registry)
    (ownScope : ∀ scope entry, scopeOf (resolve scope entry) = scope) :
    (defaulted category entries resolve list scopeOf).Lawful where
  started := started
  step registry member := by
    rw [block_defaulted]
    exact step registry member.1 member.2
  besideMenu := besideMenu
  refused _ _ := ⟨nofun, nofun⟩
  ownScope scope entry _ _ registered own := by
    cases registered
    cases own
    exact ownScope scope entry

theorem Registry.Listing.lawful_verbatim {list : Registry → List Entry}
    (started : list .empty = [])
    (step : ∀ registry scope fragment, list (registry.addScope (scope, fragment)) =
      list registry ++ entries (category.content fragment))
    (besideMenu : ∀ registry menuItems,
      list { registry with menuItems } = list registry) :
    (verbatim category entries list).Lawful where
  started := started
  step registry member := by
    refine (step registry member.1 member.2).trans ?_
    exact congrArg (list registry ++ ·) List.filterMap_some.symm
  besideMenu := besideMenu
  refused _ _ := ⟨nofun, nofun⟩
  ownScope _ _ _ _ _ := nofun

end

theorem Registry.Listing.lawful_pluginModules : pluginModules.Lawful :=
  lawful_defaulted rfl (fun _ _ _ => rfl) (fun _ _ => rfl) fun _ _ => rfl

theorem SignInPage.resolve?_eq_none_iff {scope : String} {page : SignInPage} :
    page.resolve? scope = none ↔ page.importName = none ∨ page.importName = some "" := by
  rw [resolve?, Option.map_eq_none_iff]
  cases page.importName with
  | none => simp
  | some name => simp [Option.filter]

theorem Registry.Listing.lawful_signInPages : signInPages.Lawful where
  started := rfl
  step registry member := by
    obtain ⟨scope, fragment⟩ := member
    change (registry.addScope (scope, fragment)).signInPages =
      registry.signInPages ++ fragment.signInPage.toList.filterMap (SignInPage.resolve? scope)
    rw [addScope]
    cases fragment.signInPage with
    | none => exact (List.append_nil _).symm
    | some page =>
        rw [Option.bind_some, Option.toList_some]
        cases resolved : page.resolve? scope with
        | none => rw [List.filterMap_cons_none resolved, List.filterMap_nil, List.append_nil]
        | some entry => rw [List.filterMap_cons_some resolved, List.filterMap_nil]
  besideMenu _ _ := rfl
  refused _ _ := SignInPage.resolve?_eq_none_iff
  ownScope _ page registered _ resolved own := by
    obtain ⟨name, -, rfl⟩ := Option.map_eq_some_iff.1 resolved
    cases own
    rfl

/-- One step over a scope serves all lists, each from its own category. -/
theorem Registry.Listing.lawful_of_mem {listing : Listing} (mem : listing ∈ listings) :
    listing.Lawful := by
  have all : ∀ listing ∈ listings, listing.Lawful := by
    simp only [listings, List.forall_mem_cons]
    refine ⟨lawful_pluginModules, ?_, ?_, ?_, ?_, ?_, ?_, ?bindings, ?_, ?settings, ?_,
      lawful_signInPages, ?_, ?_, ?_, nofun⟩
    case bindings => exact lawful_verbatim rfl (fun _ _ _ => rfl) fun _ _ => rfl
    case settings => exact lawful_verbatim rfl (fun _ _ _ => rfl) fun _ _ => rfl
    all_goals exact lawful_defaulted rfl (fun _ _ _ => rfl) (fun _ _ => rfl) fun _ _ => rfl
  exact all listing mem

/-- A run over scopes puts their blocks behind what is there, in their order. -/
theorem Registry.Listing.Lawful.list_foldl {listing : Listing} (lawful : listing.Lawful)
    (members : List (String × Fragment)) (registry : Registry) :
    listing.list (members.foldl addScope registry) =
      listing.list registry ++ members.flatMap listing.block := by
  induction members generalizing registry with
  | nil => rw [List.foldl_nil, List.flatMap_nil, List.append_nil]
  | cons member rest ih =>
      rw [List.foldl_cons, ih, lawful.step, List.flatMap_cons, List.append_assoc]

/-- The run over all scopes of a frontend fills the list with their blocks. -/
theorem Registry.Listing.Lawful.list_resolve {listing : Listing} (lawful : listing.Lawful)
    (frontend : Frontend) :
    listing.list frontend.resolve = frontend.toList.flatMap listing.block := by
  rw [Frontend.resolve, lawful.besideMenu, lawful.list_foldl, lawful.started, List.nil_append]

theorem Frontend.pluginModules_resolve (frontend : Frontend) :
    frontend.resolve.pluginModules = frontend.toList.map fun member =>
      { scope := member.1, module := member.2.pluginModule.getD defaultModule } := by
  rw [← List.flatMap_pure_eq_map]
  refine (Registry.Listing.lawful_pluginModules.list_resolve frontend).trans ?_
  exact List.flatMap_congr fun member _ => Registry.Listing.block_defaulted _ _ _ member

theorem Frontend.mountPoints_resolve (frontend : Frontend) :
    frontend.resolve.mountPoints = frontend.toList.flatMap fun member =>
      member.2.mountPoints.map (MountPoint.resolve member.1) := by
  have mem : .defaulted .mountPoints id MountPoint.resolve (·.mountPoints) (·.scope) ∈
      Registry.listings := by simp [Registry.listings]
  refine ((Registry.Listing.lawful_of_mem mem).list_resolve frontend).trans ?_
  exact List.flatMap_congr fun member _ => Registry.Listing.block_defaulted _ _ _ member

/-- The lists and the menu are all that a registry holds. -/
theorem Registry.eq_of_listings {registry other : Registry}
    (lists : ∀ listing ∈ listings, listing.list registry = listing.list other)
    (menu : registry.menuItems = other.menuItems) : registry = other := by
  cases registry
  cases other
  simp_all [listings, Listing.defaulted, Listing.verbatim, Listing.pluginModules,
    Listing.signInPages]

/-! ## Whole frontends -/

/-- Both frontends, the scopes of the second after those of the first. -/
def Frontend.append (frontend other : Frontend) : Frontend :=
  ⟨frontend.scopes.insertAll other.toList⟩

theorem Frontend.toList_append {frontend other : Frontend}
    (disjoint : frontend.scopeNames.Disjoint other.scopeNames) :
    (frontend.append other).toList = frontend.toList ++ other.toList := by
  have keys : Members.keys (frontend.toList ++ other.toList) =
      frontend.scopeNames ++ other.scopeNames := List.map_append
  refine Keyed.members_insertAll other.toList frontend.scopes ?_
  change (Members.keys (frontend.toList ++ other.toList)).Nodup
  rw [keys]
  exact frontend.scopes.nodup.append other.scopes.nodup disjoint

theorem Registry.Listing.block_congr {listing : Listing} {fragment other : Fragment}
    (same : listing.category.content fragment = listing.category.content other) (scope : String) :
    listing.block (scope, fragment) = listing.block (scope, other) :=
  congrArg (fun held => (listing.entries held).filterMap (listing.register? scope)) same

/-- A block is made of the category that feeds the list, and of nothing else. -/
theorem Registry.Listing.flatMap_block_congr {listing : Listing}
    {members others : List (String × Fragment)}
    (same : others.map (fun member => (member.1, listing.category.content member.2)) =
      members.map fun member => (member.1, listing.category.content member.2)) :
    others.flatMap listing.block = members.flatMap listing.block := by
  have blocks (members : List (String × Fragment)) : members.flatMap listing.block =
      (members.map fun member => (member.1, listing.category.content member.2)).flatMap
        fun declared => (listing.entries declared.2).filterMap (listing.register? declared.1) := by
    rw [List.flatMap_map]
    rfl
  rw [blocks others, same, ← blocks members]

theorem Registry.Listing.Lawful.scope_of_mem_block {listing : Listing} (lawful : listing.Lawful)
    {member : String × Fragment} {registered : listing.Registered} {own : String}
    (mem : registered ∈ listing.block member) (carried : listing.scope? registered = some own) :
    own = member.1 := by
  obtain ⟨entry, -, registers⟩ := List.mem_filterMap.1 mem
  exact lawful.ownScope member.1 entry registered own registers carried

/-- What becomes of a frontend in a list of the registry. -/
structure Registry.Listing.Flattens (listing : Listing) (frontend : Frontend) : Prop where
  /-- The list is the concatenation of the blocks of the scopes, in their order. -/
  concatenated : listing.list frontend.resolve = frontend.toList.flatMap listing.block
  /-- An entry is missing from its block only if it is refused. -/
  complete (scope : String) (entry : listing.Entry) :
    listing.register? scope entry = none ↔ listing.Refused entry
  /-- An entry carries the scope of its block. -/
  ownScope : ∀ member ∈ frontend.toList, ∀ registered ∈ listing.block member,
    ∀ own, listing.scope? registered = some own → own = member.1
  /-- The other categories do not matter. -/
  confined (other : Frontend) :
    other.toList.map (fun member => (member.1, listing.category.content member.2)) =
      frontend.toList.map (fun member => (member.1, listing.category.content member.2)) →
    listing.list other.resolve = listing.list frontend.resolve
  /-- The scopes of another frontend append their blocks. -/
  appended (other : Frontend) : frontend.scopeNames.Disjoint other.scopeNames →
    listing.list (frontend.append other).resolve =
      listing.list frontend.resolve ++ listing.list other.resolve

/-- **Aggregation is flattening.** Every list of the registry but the menu is made of the blocks of
its category, scope by scope, and with the menu these lists are the whole registry. -/
theorem Frontend.resolve_flattens (frontend : Frontend) :
    (∀ listing ∈ Registry.listings, listing.Flattens frontend) ∧
      ∀ registry : Registry,
        (∀ listing ∈ Registry.listings,
          listing.list registry = frontend.toList.flatMap listing.block) →
        registry.menuItems = Menu.ofFrontend frontend → registry = frontend.resolve := by
  constructor
  · intro listing mem
    have lawful : listing.Lawful := Registry.Listing.lawful_of_mem mem
    constructor
    · exact lawful.list_resolve frontend
    · exact lawful.refused
    · intro member _ registered inBlock own carried
      exact lawful.scope_of_mem_block inBlock carried
    · intro other same
      rw [lawful.list_resolve, lawful.list_resolve]
      exact Registry.Listing.flatMap_block_congr same
    · intro other disjoint
      rw [lawful.list_resolve, lawful.list_resolve, lawful.list_resolve, toList_append disjoint,
        List.flatMap_append]
  · intro registry lists menu
    refine Registry.eq_of_listings (fun listing mem => ?_) menu
    rw [lists listing mem, (Registry.Listing.lawful_of_mem mem).list_resolve]

/-- A plugin that claims another scope in its entries and has a sign-in page without an export. -/
def Frontend.docsSample : Frontend :=
  .ofDoc (.object [("acme.docs", .object
    [("scope", .string "acme.home"),
      ("appIcons", .array
        [.object [("name", .string "book"), ("scope", .string "acme.home")],
          .object [("name", .string "page"), ("importName", .string "Page")]]),
      ("signInPage", .object [("importName", .string "")])])])

/-- A plugin with an icon of a name that the other one uses, too, and a sign-in page. -/
def Frontend.homeSample : Frontend :=
  .ofDoc (.object [("acme.home", .object
    [("appIcons", .array [.object [("name", .string "book")]]),
      ("signInPage", .object [("importName", .string "SignIn")])])])

theorem Frontend.resolve_flattens_samples :
    Registry.Listing.signInPages ∈ Registry.listings ∧
      docsSample.scopeNames.Disjoint homeSample.scopeNames ∧
      (docsSample.append homeSample).resolve.signInPages =
        docsSample.resolve.signInPages ++ homeSample.resolve.signInPages ∧
      (docsSample.append homeSample).resolve.signInPages =
        [⟨"acme.home", "PluginRoot", "SignIn"⟩] ∧
      (docsSample.append homeSample).resolve.appIcons =
        [⟨"acme.docs", "PluginRoot", "default", "book"⟩,
          ⟨"acme.docs", "PluginRoot", "Page", "page"⟩,
          ⟨"acme.home", "PluginRoot", "default", "book"⟩] := by
  have mem : Registry.Listing.signInPages ∈ Registry.listings := by simp [Registry.listings]
  have disjoint : docsSample.scopeNames.Disjoint homeSample.scopeNames := by
    change List.Disjoint ["acme.docs"] ["acme.home"]
    simp
  exact ⟨mem, disjoint, ((resolve_flattens docsSample).1 _ mem).appended homeSample disjoint, rfl,
    rfl⟩

end PortalConfig
