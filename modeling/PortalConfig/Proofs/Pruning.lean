import Mathlib.Data.List.Forall2
import PortalConfig.Plugin.Registry
import PortalConfig.Proofs.Document
import PortalConfig.Proofs.Frontend
import PortalConfig.Proofs.Record

/-!
# Malformed parts do not matter

`Frontend.prune` deletes from the document of a frontend whatever does not decode: elements of
lists, members of maps, categories of the wrong shape, unknown keys, and the nested values that are
read leniently. The pruned document declares the same frontend, so nothing malformed takes
anything else down with it (`Frontend.ofDoc_prune`).
-/

namespace PortalConfig

variable {α : Type}

/-! ## Pruning a document -/

/-- Keeps a value that decodes. -/
def Prune.decodable (decode : Doc → Option α) (value : Doc) : Option Doc :=
  if (decode value).isSome then some value else none

/-- Revises the members of an object and keeps anything else. -/
def Prune.nested (revise : String → Doc → Option Doc) : Doc → Doc
  | .object members => .object (Members.revise revise members)
  | doc => doc

/-- Keeps the elements that decode, each pruned in turn. -/
def Prune.elements (decode : Doc → Option α) (prune : Doc → Doc) (items : List Doc) : List Doc :=
  (items.filter fun item => (decode item).isSome).map prune

/-- Deletes the elements of a list that do not decode and keeps anything else. -/
def Prune.items (decode : Doc → Option α) : Doc → Doc
  | .array items => .array (elements decode id items)
  | doc => doc

/-- Keeps a list, with the elements that decode. -/
def Prune.list (decode : Doc → Option α) (prune : Doc → Doc) : Doc → Option Doc
  | .array items => some (.array (elements decode prune items))
  | _ => none

/-- Keeps an object, with its members revised. -/
def Prune.map (revise : String → Doc → Option Doc) : Doc → Option Doc
  | .object members => some (.object (Members.revise revise members))
  | _ => none

/-- Deletes the menu item and the configuration of a route when they do not decode. -/
def Prune.routeMember (key : String) : Doc → Option Doc :=
  if key = "menuItem" then decodable RouteMenuItem.decode
  else if key = "config" then decodable ComponentConfig.decode
  else some

/-- Deletes the configuration of a documentation addon when it does not decode. -/
def Prune.addonMember (key : String) : Doc → Option Doc :=
  if key = "config" then decodable ComponentConfig.decode else some

/-- Deletes the targets and bindings that do not decode. -/
def Prune.bindingsMember (key : String) : Doc → Option Doc :=
  if key = "targets" then some ∘ items BindingTarget.decode
  else if key = "bindings" then some ∘ items RouteBinding.decode
  else some

/-- What is kept of the value of each category. -/
def Prune.kept : Members (Doc → Option Doc) :=
  [("pluginModule", decodable Doc.string?),
    ("dynamicRoutes", list Route.decode (nested routeMember)),
    ("menuItems", map fun _ => decodable MenuOverride.decode),
    ("routeBindings", map bindingsMember),
    ("entityTabs", list EntityTab.decode id),
    ("mountPoints", list MountPoint.decode id),
    ("appIcons", list AppIcon.decode id),
    ("apiFactories", list ModuleImport.decode id),
    ("analyticsApiExtensions", list ModuleImport.decode id),
    ("providerSettings", list ProviderSetting.decode id),
    ("scaffolderFieldExtensions", list ModuleImport.decode id),
    ("signInPage", decodable SignInPage.decode),
    ("techdocsAddons", list TechdocsAddon.decode (nested addonMember)),
    ("themes", list Theme.decode id),
    ("translationResources", list LocaleResource.decode id)]

/-- What is kept of the value under a key of a plugin: nothing, if the key is no category. -/
def Prune.category (key : String) : Doc → Option Doc := (kept.get? key).getD fun _ => none

/-- What is kept of a plugin: its categories, or an empty object. -/
def Prune.plugin : Doc → Doc
  | .object members => .object (Members.revise category members)
  | _ => .object []

/-- Deletes from the document of a frontend what does not decode. -/
def Frontend.prune : Doc → Doc
  | .object members => .object (members.map fun member => (member.1, Prune.plugin member.2))
  | doc => doc

/-! ## Single values -/

theorem Prune.decodable_bind (decode : Doc → Option α) (value : Doc) :
    (decodable decode value).bind decode = decode value := by
  rw [decodable]
  split
  · rfl
  · next fails => exact (Option.not_isSome_iff_eq_none.1 fails).symm

theorem Prune.bind_decodable (decode : Doc → Option α) (given : Option Doc) :
    (given.bind (decodable decode)).bind decode = given.bind decode := by
  rw [Option.bind_assoc]
  exact congrArg given.bind (funext (decodable_bind decode))

theorem Prune.filterMap_elements {decode : Doc → Option α} {prune : Doc → Doc} {items : List Doc}
    (same : ∀ item ∈ items, decode (prune item) = decode item) :
    (elements decode prune items).filterMap decode = items.filterMap decode := by
  unfold elements
  induction items with
  | nil => rfl
  | cons item rest ih =>
      have ihRest := ih fun other mem => same other (List.mem_cons_of_mem _ mem)
      cases decoded : decode item with
      | none =>
          rw [List.filter_cons_of_neg (by simp [decoded]), List.filterMap_cons_none decoded]
          exact ihRest
      | some entry =>
          have kept : decode (prune item) = some entry :=
            (same item List.mem_cons_self).trans decoded
          rw [List.filter_cons_of_pos (by simp [decoded]), List.map_cons,
            List.filterMap_cons_some kept, List.filterMap_cons_some decoded, ihRest]

theorem Prune.decodable_list {decode : Doc → Option α} {prune : Doc → Doc} {given : Option Doc}
    (same : ∀ item ∈ Doc.elements given, decode (prune item) = decode item) :
    Fragment.decodable decode (given.bind (list decode prune)) =
      Fragment.decodable decode given := by
  rw [Fragment.decodable_eq_filterMap, Fragment.decodable_eq_filterMap]
  cases given with
  | none => rfl
  | some doc =>
      cases doc with
      | array items => exact filterMap_elements same
      | null | bool _ | number _ | string _ | object _ => rfl

theorem Prune.decodable_items (decode : Doc → Option α) (given : Option Doc) :
    Fragment.decodable decode (given.bind (some ∘ items decode)) =
      Fragment.decodable decode given := by
  rw [Fragment.decodable_eq_filterMap, Fragment.decodable_eq_filterMap]
  cases given with
  | none => rfl
  | some doc =>
      cases doc with
      | array items => exact filterMap_elements fun _ _ => rfl
      | null | bool _ | number _ | string _ | object _ => rfl

theorem Prune.decodableMembers_map (decode : Doc → Option α) (given : Option Doc) :
    Fragment.decodableMembers decode (given.bind (map fun _ => decodable decode)) =
      Fragment.decodableMembers decode given := by
  cases given with
  | none => rfl
  | some doc =>
      cases doc with
      | object members =>
          refine congrArg Keyed.ofList
            ((Members.revise_revise _ (fun _ => decode) members).trans ?_)
          simp only [decodable_bind]
          rfl
      | null | bool _ | number _ | string _ | array _ => rfl

/-! ## Values with members of their own -/

theorem Doc.keysDistinct_of_mem_elements {given : Option Doc}
    (distinct : ∀ doc, given = some doc → doc.KeysDistinct) :
    ∀ item ∈ elements given, KeysDistinct item := by
  intro item mem
  cases given with
  | none => cases mem
  | some doc =>
      cases doc with
      | array items => exact keysDistinct_of_mem_items (distinct _ rfl) item mem
      | null | bool _ | number _ | string _ | object _ => cases mem

/-- A route is read the same after its menu item and its configuration are pruned. -/
theorem Prune.decode_route {doc : Doc} (distinct : doc.KeysDistinct) :
    Route.decode (nested routeMember doc) = Route.decode doc := by
  cases doc with
  | object members =>
      have read := Members.get?_revise routeMember distinct.1
      simp only [nested, Route.decode, Doc.record_eq, Record.ofDoc?, Option.bind_some,
        Record.run_eq_bind, Record.required_bind, Record.optional_bind, Record.lenient_bind,
        Record.pure_run, Record.next, Record.rest, Record.isDone, Option.bind_assoc, read,
        routeMember, decodable_bind, Option.bind_fun_some, String.reduceEq, ↓reduceIte]
  | null | bool _ | number _ | string _ | array _ => rfl

/-- A documentation addon is read the same after its configuration is pruned. -/
theorem Prune.decode_addon {doc : Doc} (distinct : doc.KeysDistinct) :
    TechdocsAddon.decode (nested addonMember doc) = TechdocsAddon.decode doc := by
  cases doc with
  | object members =>
      have read := Members.get?_revise addonMember distinct.1
      simp only [nested, TechdocsAddon.decode, Doc.record_eq, Record.ofDoc?, Option.bind_some,
        Record.run_eq_bind, Record.optional_bind, Record.lenient_bind, Record.pure_run,
        Record.next, Record.rest, Record.isDone, Option.bind_assoc, read, addonMember,
        decodable_bind, Option.bind_fun_some, String.reduceEq, ↓reduceIte]
  | null | bool _ | number _ | string _ | array _ => rfl

theorem Fragment.decodableBindings_eq (given : Option Doc) :
    decodableBindings given =
      { targets := decodable BindingTarget.decode (given.bind (Doc.get? · "targets"))
        bindings := decodable RouteBinding.decode (given.bind (Doc.get? · "bindings")) } := by
  cases given with
  | none => rfl
  | some doc => cases doc <;> rfl

theorem Prune.decodableBindings_map {given : Option Doc}
    (distinct : ∀ doc, given = some doc → doc.KeysDistinct) :
    Fragment.decodableBindings (given.bind (map bindingsMember)) =
      Fragment.decodableBindings given := by
  cases given with
  | none => rfl
  | some doc =>
      cases doc with
      | object members =>
          have read := Members.get?_revise bindingsMember (distinct _ rfl).1
          simp only [Option.bind_some, map, Fragment.decodableBindings, read, bindingsMember,
            String.reduceEq, ↓reduceIte, decodable_items]
      | null | bool _ | number _ | string _ | array _ => rfl

/-! ## Plugins -/

theorem Fragment.ofMembers_revise_category {members : Members Doc}
    (distinct : (Doc.object members).KeysDistinct) :
    ofMembers (members.revise Prune.category) = ofMembers members := by
  have read := Members.get?_revise Prune.category distinct.1
  have inner (key : String) (doc : Doc) (found : members.get? key = some doc) :
      doc.KeysDistinct :=
    Doc.keysDistinct_of_mem_members distinct.2 _ (Members.mem_of_get?_eq_some found)
  have plain {α : Type} (decode : Doc → Option α) (given : Option Doc) :
      decodable decode (given.bind (Prune.list decode id)) = decodable decode given :=
    Prune.decodable_list fun _ _ => rfl
  have routes := Prune.decodable_list fun item mem =>
    Prune.decode_route (Doc.keysDistinct_of_mem_elements (inner "dynamicRoutes") item mem)
  have addons := Prune.decodable_list fun item mem =>
    Prune.decode_addon (Doc.keysDistinct_of_mem_elements (inner "techdocsAddons") item mem)
  have bindings := Prune.decodableBindings_map (inner "routeBindings")
  simp only [ofMembers, read, Prune.category, Prune.kept, Members.get?, String.reduceEq,
    ↓reduceIte, Option.getD_some, Prune.bind_decodable, Prune.decodableMembers_map, plain, routes,
    addons, bindings]

theorem Fragment.ofDoc_prune_plugin {doc : Doc} (distinct : doc.KeysDistinct) :
    Fragment.ofDoc (Prune.plugin doc) = Fragment.ofDoc doc := by
  cases doc with
  | object members => exact ofMembers_revise_category distinct
  | null | bool _ | number _ | string _ | array _ => rfl

/-! ## What the categories hold -/

/-- The values of the items that decode, in the order of the items; the others are skipped. -/
inductive Fragment.Decodings {β : Type} (decode : β → Option α) : List β → List α → Prop
  | nil : Decodings decode [] []
  | kept {item : β} {entry : α} {items : List β} {entries : List α} :
    decode item = some entry → Decodings decode items entries →
    Decodings decode (item :: items) (entry :: entries)
  | skipped {item : β} {items : List β} {entries : List α} :
    decode item = none → Decodings decode items entries →
    Decodings decode (item :: items) entries

/-- Every category of the fragment holds the decodings of what the plugin writes under its key. -/
structure Fragment.ReadFrom (plugin : Doc) (fragment : Fragment) : Prop where
  dynamicRoutes : Decodings Route.decode (plugin.listed "dynamicRoutes") fragment.dynamicRoutes
  menuItems : Decodings (fun member => (MenuOverride.decode member.2).map (member.1, ·))
    (((plugin.get? "menuItems").bind Doc.object?).getD []) fragment.menuItems.members
  targets : Decodings BindingTarget.decode
    (Doc.elements ((plugin.get? "routeBindings").bind (Doc.get? · "targets")))
    fragment.routeBindings.targets
  bindings : Decodings RouteBinding.decode
    (Doc.elements ((plugin.get? "routeBindings").bind (Doc.get? · "bindings")))
    fragment.routeBindings.bindings
  entityTabs : Decodings EntityTab.decode (plugin.listed "entityTabs") fragment.entityTabs
  mountPoints : Decodings MountPoint.decode (plugin.listed "mountPoints") fragment.mountPoints
  appIcons : Decodings AppIcon.decode (plugin.listed "appIcons") fragment.appIcons
  apiFactories : Decodings ModuleImport.decode (plugin.listed "apiFactories") fragment.apiFactories
  analyticsApiExtensions : Decodings ModuleImport.decode (plugin.listed "analyticsApiExtensions")
    fragment.analyticsApiExtensions
  providerSettings : Decodings ProviderSetting.decode (plugin.listed "providerSettings")
    fragment.providerSettings
  scaffolderFieldExtensions : Decodings ModuleImport.decode
    (plugin.listed "scaffolderFieldExtensions") fragment.scaffolderFieldExtensions
  techdocsAddons : Decodings TechdocsAddon.decode (plugin.listed "techdocsAddons")
    fragment.techdocsAddons
  themes : Decodings Theme.decode (plugin.listed "themes") fragment.themes
  localeResources : Decodings LocaleResource.decode (plugin.listed "translationResources")
    fragment.localeResources

theorem Fragment.decodings_filterMap {β : Type} (decode : β → Option α) (items : List β) :
    Decodings decode items (items.filterMap decode) := by
  induction items with
  | nil => exact .nil
  | cons item rest ih =>
      cases decoded : decode item with
      | none =>
          rw [List.filterMap_cons_none decoded]
          exact .skipped decoded ih
      | some entry =>
          rw [List.filterMap_cons_some decoded]
          exact .kept decoded ih

theorem Fragment.decodings_decodable (decode : Doc → Option α) (given : Option Doc) :
    Decodings decode (Doc.elements given) (decodable decode given) := by
  rw [decodable_eq_filterMap]
  exact decodings_filterMap decode _

theorem Fragment.decodings_decodableMembers (decode : Doc → Option α) {given : Option Doc}
    (distinct : ∀ doc, given = some doc → doc.KeysDistinct) :
    Decodings (fun member => (decode member.2).map (member.1, ·))
      ((given.bind Doc.object?).getD []) (decodableMembers decode given).members := by
  cases given with
  | none => exact .nil
  | some doc =>
      cases doc with
      | object members =>
          have nodup : (Members.revise (fun _ => decode) members).keys.Nodup :=
            (Members.keys_revise_sublist _ members).nodup (distinct _ rfl).1
          have same : (decodableMembers decode (some (.object members))).members =
              Members.revise (fun _ => decode) members := Keyed.members_ofList nodup
          rw [same]
          exact decodings_filterMap _ members
      | null | bool _ | number _ | string _ | array _ => exact .nil

theorem Fragment.readFrom_ofDoc {plugin : Doc} (distinct : plugin.KeysDistinct) :
    ReadFrom plugin (ofDoc plugin) := by
  have menuItems : ∀ doc, plugin.get? "menuItems" = some doc → doc.KeysDistinct := by
    intro doc found
    rcases Option.bind_eq_some_iff.1 found with ⟨members, object, found⟩
    cases plugin with
    | object own =>
        cases object
        exact Doc.keysDistinct_of_mem_members distinct.2 _ (Members.mem_of_get?_eq_some found)
    | null | bool _ | number _ | string _ | array _ => cases object
  have category (key : String) :
      (plugin.object?.getD [] : Members Doc).get? key = plugin.get? key := by
    cases plugin <;> rfl
  rw [ofDoc_eq_ofMembers]
  unfold ofMembers
  simp only [category, decodableBindings_eq]
  exact
    { dynamicRoutes := decodings_decodable _ _
      menuItems := decodings_decodableMembers _ menuItems
      targets := decodings_decodable _ _
      bindings := decodings_decodable _ _
      entityTabs := decodings_decodable _ _
      mountPoints := decodings_decodable _ _
      appIcons := decodings_decodable _ _
      apiFactories := decodings_decodable _ _
      analyticsApiExtensions := decodings_decodable _ _
      providerSettings := decodings_decodable _ _
      scaffolderFieldExtensions := decodings_decodable _ _
      techdocsAddons := decodings_decodable _ _
      themes := decodings_decodable _ _
      localeResources := decodings_decodable _ _ }

/-! ## Frontends -/

theorem Frontend.toList_ofDoc_readFrom {doc : Doc} (distinct : doc.KeysDistinct) :
    List.Forall₂ (fun member scope => scope.1 = member.1 ∧ Fragment.ReadFrom member.2 scope.2)
      (doc.object?.getD []) (ofDoc doc).toList := by
  cases doc with
  | object members =>
      have scopes : (ofDoc (.object members)).toList =
          members.map fun member => (member.1, Fragment.ofDoc member.2) :=
        toList_ofDoc ⟨members, distinct.1⟩
      rw [scopes, Doc.object?, Option.getD_some, List.forall₂_map_right_iff, List.forall₂_same]
      intro member mem
      exact ⟨rfl, Fragment.readFrom_ofDoc (Doc.keysDistinct_of_mem_members distinct.2 member mem)⟩
  | null | bool _ | number _ | string _ | array _ => exact .nil

/-- **What is malformed takes nothing else down.** A frontend and its pruned document declare the
same configuration and so resolve to the same registry; scope by scope, every list holds the
decodings of exactly the elements that decode, in their order. -/
theorem Frontend.ofDoc_prune (doc : Doc) (distinct : doc.KeysDistinct) :
    ofDoc (prune doc) = ofDoc doc ∧
      (ofDoc (prune doc)).resolve = (ofDoc doc).resolve ∧
      List.Forall₂ (fun member scope => scope.1 = member.1 ∧ Fragment.ReadFrom member.2 scope.2)
        (doc.object?.getD []) (ofDoc doc).toList := by
  have same : ofDoc (prune doc) = ofDoc doc := by
    cases doc with
    | object members =>
        rw [prune, ofDoc, ofDoc, List.map_map]
        refine congrArg (fun scopes => Frontend.mk (.ofList scopes)) (List.map_congr_left ?_)
        intro member mem
        have inner : member.2.KeysDistinct :=
          Doc.keysDistinct_of_mem_members distinct.2 member mem
        exact congrArg (Prod.mk member.1) (Fragment.ofDoc_prune_plugin inner)
    | null | bool _ | number _ | string _ | array _ => rfl
  exact ⟨same, congrArg resolve same, toList_ofDoc_readFrom distinct⟩

/-- A frontend with something malformed at every level: a scope that is no map, a key that is no
category, categories of the wrong shape, elements and members that do not decode, and nested values
that do not. -/
def Frontend.malformedSample : Doc :=
  .object
    [("acme.docs", .object
        [("pluginModule", .int 3), ("routes", .array []),
          ("dynamicRoutes", .array
            [.object [("path", .string "/docs"), ("menuItem", .string "Docs"),
                ("config", .object [])],
              .object [("path", .bool true)]]),
          ("menuItems", .object [("docs", .object []), ("other", .string "Other")]),
          ("routeBindings", .object
            [("targets", .array [.null, .object []]), ("bindings", .object [])]),
          ("entityTabs", .object []), ("signInPage", .null),
          ("techdocsAddons", .array
            [.object [("importName", .string "Report"), ("config", .string "")]])]),
      ("acme.none", .array [.null])]

theorem Frontend.ofDoc_prune_malformedSample :
    malformedSample.KeysDistinct ∧
      prune malformedSample = .object
        [("acme.docs", .object
            [("dynamicRoutes", .array
                [.object [("path", .string "/docs"), ("config", .object [])]]),
              ("menuItems", .object [("docs", .object [])]),
              ("routeBindings", .object
                [("targets", .array [.object []]), ("bindings", .object [])]),
              ("techdocsAddons", .array [.object [("importName", .string "Report")]])]),
          ("acme.none", .object [])] ∧
      ofDoc (prune malformedSample) = ofDoc malformedSample ∧
      (ofDoc malformedSample).fragments.map (fun fragment => fragment.dynamicRoutes.map (·.path)) =
        [["/docs"], []] := by
  have distinct : malformedSample.KeysDistinct := by
    simp [malformedSample, Doc.KeysDistinct, Doc.ItemsDistinct, Doc.MembersDistinct, Members.keys]
  exact ⟨distinct, rfl, (ofDoc_prune malformedSample distinct).1, rfl⟩

end PortalConfig
