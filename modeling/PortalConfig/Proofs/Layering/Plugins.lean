import PortalConfig.AppConfig
import PortalConfig.Proofs.Aggregation
import PortalConfig.Proofs.Layering.Declarations

/-!
# The plugins of a layered configuration

The laws of layering reach as far as the registry, since the plugins stand at a path of keys of the
configuration (`AppConfig.frontendDoc?_eq_at?`) and are read off it scope by scope, category by
category. `AppConfig.resolve_layered` says what the declarations of all layers come to there: a
place for each scope, and the last word on each of its categories.
-/

namespace PortalConfig

/-! ## Reading the plugins -/

/-- The keys that lead to the plugins. -/
def Doc.pluginKeys : List String := ["dynamicPlugins", "frontend"]

/-- A document read from a configuration file. Whatever it has of the plugins, down to each scope,
are objects. -/
structure Doc.IsPluginLayer (doc : Doc) : Prop where
  distinct : doc.KeysDistinct
  passable (scope : String) : doc.OpenAlong (pluginKeys ++ [scope])

theorem Doc.IsPluginLayer.layersAlong {docs : List Doc} (layers : ∀ doc ∈ docs, doc.IsPluginLayer)
    (scope : String) : LayersAlong docs (pluginKeys ++ [scope]) :=
  fun doc mem => ⟨(layers doc mem).distinct, (layers doc mem).passable scope⟩

theorem Doc.IsPluginLayer.layersAlong_pluginKeys {docs : List Doc}
    (layers : ∀ doc ∈ docs, doc.IsPluginLayer) : LayersAlong docs pluginKeys :=
  fun doc mem => ⟨(layers doc mem).distinct,
    ((layers doc mem).passable "").of_isPrefix (List.prefix_append _ _)⟩

theorem Doc.follow?_keys {doc : Doc} {keys : List String} (passable : doc.OpenAlong keys) :
    doc.follow? (keys.map .key) = doc.at? keys := by
  induction keys generalizing doc with
  | nil => rfl
  | cons key rest ih =>
      obtain ⟨⟨members, rfl⟩, inner⟩ := openAlong_cons_iff.1 passable
      change (Members.get? members key).bind (fun child => child.follow? (rest.map .key)) = _
      refine Option.bind_congr fun child member => ?_
      exact ih (inner child member)

/-- Following the path of the plugins is following its keys. -/
theorem AppConfig.frontendDoc?_eq_at? {config : AppConfig}
    (passable : config.root.OpenAlong Doc.pluginKeys) :
    config.frontendDoc? = config.root.at? Doc.pluginKeys := by
  change (config.root.follow? (Doc.pluginKeys.map .key)).filter _ = _
  rw [Doc.follow?_keys passable]
  cases found : config.root.at? Doc.pluginKeys with
  | none => rfl
  | some value =>
      obtain ⟨members, rfl⟩ := passable _ value List.prefix_rfl found
      rfl

/-- The modules stand in the order of the scopes. -/
theorem PluginSection.scopes_resolve (plugins : PluginSection) :
    plugins.resolve.pluginModules.map (·.scope) =
      (plugins.frontend.map Frontend.scopeNames).getD [] := by
  rw [resolve]
  cases plugins.frontend with
  | none => rfl
  | some frontend =>
      change frontend.resolve.pluginModules.map _ = frontend.toList.map Prod.fst
      rw [Frontend.pluginModules_resolve, List.map_map]
      rfl

/-! ## Layers of plugins -/

/-- The configuration that documents make, one laid over the other. -/
def AppConfig.layered (docs : List Doc) : AppConfig := docs.foldl merge empty

theorem AppConfig.root_layered (docs : List Doc) :
    (layered docs).root = Doc.mergeAll (.object []) docs :=
  (List.foldl_hom AppConfig.root fun _ _ => rfl).symm

section Layered

variable {docs : List Doc}

theorem AppConfig.openAlong_layered {path : List String} (layers : Doc.LayersAlong docs path) :
    (layered docs).root.OpenAlong path := by
  rw [root_layered]
  exact Doc.openAlong_mergeAll layers (Doc.openAlong_empty path)

/-- The layers declare plugins together, or none of them does. -/
theorem AppConfig.frontend_layered (layers : ∀ doc ∈ docs, doc.IsPluginLayer) :
    (layered docs).root.at? Doc.pluginKeys = none ∧ (layered docs).plugins.frontend = none ∨
      ∃ declared : Keyed Doc,
        (layered docs).root.at? Doc.pluginKeys = some (.object declared.members) ∧
        (layered docs).plugins.frontend = some (.ofDoc (.object declared.members)) := by
  have along := Doc.IsPluginLayer.layersAlong_pluginKeys layers
  have passable := openAlong_layered along
  have read : (layered docs).plugins.frontend =
      ((layered docs).root.at? Doc.pluginKeys).map Frontend.ofDoc := by
    rw [← frontendDoc?_eq_at? passable]
    rfl
  cases found : (layered docs).root.at? Doc.pluginKeys with
  | none => exact Or.inl ⟨rfl, by rw [read, found, Option.map_none]⟩
  | some value =>
      obtain ⟨members, rfl⟩ := passable _ value List.prefix_rfl found
      have nodup : ((layered docs).root.keysAt Doc.pluginKeys).Nodup := by
        rw [root_layered]
        exact Doc.nodup_keysAt_mergeAll along (Doc.openAlong_empty _) List.nodup_nil
      rw [Doc.keysAt_of_at?_eq_some found] at nodup
      exact Or.inr ⟨⟨members, nodup⟩, rfl, by rw [read, found, Option.map_some]⟩

theorem AppConfig.scopes_layered (layers : ∀ doc ∈ docs, doc.IsPluginLayer) :
    (layered docs).plugins.resolve.pluginModules.map (·.scope) =
      (docs.flatMap (·.keysAt Doc.pluginKeys)).eraseDups := by
  have along := Doc.IsPluginLayer.layersAlong_pluginKeys layers
  have declared : (layered docs).root.keysAt Doc.pluginKeys =
      (docs.flatMap (·.keysAt Doc.pluginKeys)).eraseDups := by
    rw [root_layered]
    exact Doc.keysAt_mergeAll along (Doc.openAlong_empty _) List.nodup_nil
  rw [PluginSection.scopes_resolve, ← declared]
  rcases frontend_layered layers with ⟨missing, none⟩ | ⟨table, found, some⟩
  · rw [none, Doc.keysAt_of_at?_eq_none missing]
    rfl
  · rw [some, Doc.keysAt_of_at?_eq_some found]
    change Members.keys (Frontend.ofDoc (.object table.members)).toList = _
    rw [Frontend.toList_ofDoc, Members.keys, List.map_map]
    rfl

end Layered

/-! ## The last word -/

/-- A scope holds of a category what another fragment does, and adds to the lists of the category,
in its own place, what that fragment would. -/
def PluginSection.Contributes (plugins : PluginSection) (scope : String)
    (category : Fragment.Category) (alone : Fragment) : Prop :=
  ∃ frontend earlier fragment later,
    plugins.frontend = some frontend ∧
    frontend.toList = earlier ++ (scope, fragment) :: later ∧
    category.content fragment = category.content alone ∧
    ∀ listing ∈ Registry.listings, listing.category = category →
      listing.list plugins.resolve =
        earlier.flatMap listing.block ++ listing.block (scope, alone) ++
          later.flatMap listing.block

theorem PluginSection.Contributes.of_mem {plugins : PluginSection} {frontend : Frontend}
    {scope : String} {category : Fragment.Category} {fragment alone : Fragment}
    (declared : plugins.frontend = some frontend) (mem : (scope, fragment) ∈ frontend.toList)
    (same : category.content fragment = category.content alone) :
    plugins.Contributes scope category alone := by
  obtain ⟨earlier, later, split⟩ := List.append_of_mem mem
  refine ⟨frontend, earlier, fragment, later, declared, split, same, fun listing lists own => ?_⟩
  subst own
  rw [PluginSection.resolve, declared]
  change listing.list frontend.resolve = _
  rw [(Registry.Listing.lawful_of_mem lists).list_resolve, split, List.flatMap_append,
    List.flatMap_cons, Registry.Listing.block_congr same, List.append_assoc]

theorem AppConfig.contributes_layered {docs : List Doc}
    (layers : ∀ doc ∈ docs, doc.IsPluginLayer) {scope : String} {category : Fragment.Category}
    {value : Doc}
    (last : docs.reverse.findSome? (·.at? (Doc.pluginKeys ++ [scope, category.key])) = some value)
    (plain : value.object? = none) :
    (layered docs).plugins.Contributes scope category
      (.ofDoc (.object [(category.key, value)])) := by
  have stands : (layered docs).root.at? (Doc.pluginKeys ++ [scope] ++ [category.key]) =
      some value := by
    rw [root_layered]
    exact Doc.at?_mergeAll_of_last (Doc.IsPluginLayer.layersAlong layers scope) last plain
  -- The path of the value, taken apart: the object of the scopes, that of the scope, the value.
  rw [Doc.at?_append, Doc.at?_append] at stands
  obtain ⟨scopeDoc, inScopes, inScope⟩ := Option.bind_eq_some_iff.1 stands
  obtain ⟨scopesDoc, inRoot, member⟩ := Option.bind_eq_some_iff.1 inScopes
  rw [Doc.at?_singleton] at inScope member
  rcases frontend_layered layers with ⟨missing, -⟩ | ⟨table, found, declared⟩
  · cases missing.symm.trans inRoot
  obtain rfl := Option.some.inj (inRoot.symm.trans found)
  have mem : (scope, Fragment.ofDoc scopeDoc) ∈
      (Frontend.ofDoc (.object table.members)).toList := by
    rw [Frontend.toList_ofDoc]
    exact List.mem_map_of_mem (Members.mem_of_get?_eq_some member)
  have same : category.content (.ofDoc scopeDoc) =
      category.content (.ofDoc (.object [(category.key, value)])) := by
    rw [category.content_ofDoc, category.content_ofDoc, inScope]
    simp [Doc.get?, Doc.object?, Members.get?]
  exact .of_mem declared mem same

/-- **Layering keeps the order in which scopes are declared.** Of documents laid over each other
each scope has one module, at the place where it is first declared; and where the last word on a
category of a scope is no object, the scope contributes what that value alone says. -/
theorem AppConfig.resolve_layered (docs : List Doc) (layers : ∀ doc ∈ docs, doc.IsPluginLayer) :
    ((layered docs).plugins.resolve.pluginModules.map (·.scope)).Nodup ∧
      (layered docs).plugins.resolve.pluginModules.map (·.scope) =
        (docs.flatMap (·.keysAt Doc.pluginKeys)).eraseDups ∧
      ∀ (scope : String) (category : Fragment.Category) (value : Doc),
        docs.reverse.findSome? (·.at? (Doc.pluginKeys ++ [scope, category.key])) = some value →
        value.object? = none →
        (layered docs).plugins.Contributes scope category
          (.ofDoc (.object [(category.key, value)])) := by
  refine ⟨?_, scopes_layered layers, fun scope category value => contributes_layered layers⟩
  rw [PluginSection.scopes_resolve]
  cases (layered docs).plugins.frontend with
  | none => exact List.nodup_nil
  | some frontend => exact frontend.scopes.nodup

/-- A document that declares scopes and nothing else. -/
def Doc.declaring (scopes : Members Doc) : Doc :=
  .object [("dynamicPlugins", .object [("frontend", .object scopes)])]

theorem Doc.isPluginLayer_declaring {scopes : Members Doc}
    (distinct : (declaring scopes).KeysDistinct)
    (objects : ∀ member ∈ scopes, ∃ members, member.2 = .object members) :
    (declaring scopes).IsPluginLayer where
  distinct
  passable scope := by
    refine openAlong_cons_iff.2 ⟨⟨_, rfl⟩, fun plugins found => ?_⟩
    cases found
    refine openAlong_cons_iff.2 ⟨⟨_, rfl⟩, fun frontend found => ?_⟩
    cases found
    refine openAlong_cons_iff.2 ⟨⟨_, rfl⟩, fun fragment found => ?_⟩
    obtain ⟨members, rfl⟩ := objects _ (Members.mem_of_get?_eq_some found)
    intro before value start found
    obtain rfl := List.prefix_nil.1 start
    exact ⟨members, (Option.some.inj found).symm⟩

/-- Three layers. The second declares a scope again, with another list in the place of its icons;
the third takes a module back. -/
def Doc.layerSamples : List Doc :=
  [declaring
      [("acme.docs", .object [("appIcons", .array [.object [("name", .string "book")]])]),
        ("acme.home", .object [("pluginModule", .string "Home")])],
    declaring
      [("acme.search", .object []),
        ("acme.docs", .object [("appIcons", .array [.object [("name", .string "shelf")]])])],
    declaring [("acme.home", .object [("pluginModule", .null)])]]

theorem Doc.isPluginLayer_of_mem_layerSamples : ∀ doc ∈ layerSamples, doc.IsPluginLayer := by
  simp only [layerSamples, List.forall_mem_cons]
  refine ⟨isPluginLayer_declaring ?_ ?_, isPluginLayer_declaring ?_ ?_,
    isPluginLayer_declaring ?_ ?_, nofun⟩
  all_goals
    simp [declaring, KeysDistinct, ItemsDistinct, MembersDistinct, Members.keys]

theorem AppConfig.resolve_layered_samples :
    (∀ doc ∈ Doc.layerSamples, doc.IsPluginLayer) ∧
      (layered Doc.layerSamples).plugins.resolve.pluginModules =
        [⟨"acme.docs", "PluginRoot"⟩, ⟨"acme.home", "PluginRoot"⟩,
          ⟨"acme.search", "PluginRoot"⟩] ∧
      (layered Doc.layerSamples).plugins.Contributes "acme.docs" .appIcons
        (.ofDoc (.object [("appIcons", .array [.object [("name", .string "shelf")]])])) ∧
      (layered Doc.layerSamples).plugins.Contributes "acme.home" .pluginModule
        (.ofDoc (.object [("pluginModule", .null)])) := by
  have layers := Doc.isPluginLayer_of_mem_layerSamples
  obtain ⟨-, -, lastWord⟩ := resolve_layered Doc.layerSamples layers
  exact ⟨layers, rfl, lastWord "acme.docs" .appIcons _ rfl rfl,
    lastWord "acme.home" .pluginModule _ rfl rfl⟩

end PortalConfig
