import PortalConfig.Proofs.Category
import PortalConfig.Proofs.Lint.Findings
import PortalConfig.Proofs.Pruning

/-!
# What is ignored is what is reported

Linting and reading know the shapes of the categories independently of each other. `Lint.tidied`
deletes what findings say is ignored: keys that are no categories, categories of the wrong shape and
scopes that are no maps. What is left declares the same frontend; and a category that is not
reported is read as the string, the map or the list that its value is
(`Lint.reported_iff_not_read`). Sign-in pages have laws of their own and stay aside.
-/

namespace PortalConfig

variable {α : Type}

/-! ## Deleting what is reported -/

/-- The finding says that a key of a scope is ignored as a whole: the key is no category, or its
value has the wrong shape. -/
def FrontendFinding.rejectsKey (scope key : String) : FrontendFinding → Bool
  | unknownCategory own unknown => own == scope && unknown == key
  | wrongShape own category _ _ => own == scope && category == key
  | _ => false

/-- The finding says that a scope is ignored as a whole. -/
def FrontendFinding.rejectsScope (scope : String) : FrontendFinding → Bool
  | notCategories own _ => own == scope
  | _ => false

/-- What is left under a key of a scope: nothing if a finding rejects the key, but a sign-in page
stays. -/
def Lint.tidiedValue (findings : List FrontendFinding) (scope key : String) (value : Doc) :
    Option Doc :=
  if findings.any (·.rejectsKey scope key) && key != "signInPage" then none else some value

/-- What is left of a scope: an empty map if a finding rejects the scope, and otherwise the keys
that no finding rejects. -/
def Lint.tidiedScope (findings : List FrontendFinding) (scope : String) (plugin : Doc) : Doc :=
  if findings.any (·.rejectsScope scope) then .object []
  else match plugin with
    | .object members => .object (Members.revise (tidiedValue findings scope) members)
    | doc => doc

/-- A frontend without what findings reject. -/
def Lint.tidied (findings : List FrontendFinding) : Doc → Doc
  | .object scopes =>
    .object (scopes.map fun member => (member.1, tidiedScope findings member.1 member.2))
  | doc => doc

/-! ## Reading a value as what it is -/

/-- A list is read as its items that decode, in their order. -/
def Fragment.ListRead (decode : Doc → Option α) (value : Doc) (entries : List α) : Prop :=
  ∃ items, value = .array items ∧ Decodings decode items entries

/-- The value is read as what it is: a string as itself, a map by its members and a list by its
items, each of which is kept if it decodes. -/
def Fragment.Category.Read : (category : Category) → Doc → category.Content → Prop
  | pluginModule, value, content => ∃ text, value = .string text ∧ content = some text
  | dynamicRoutes, value, content => ListRead Route.decode value content
  | menuItems, value, content => ∃ members, value = .object members ∧
    Decodings (fun member => (MenuOverride.decode member.2).map (member.1, ·)) members
      content.members
  | routeBindings, value, content => ∃ members, value = .object members ∧
    Decodings BindingTarget.decode (Doc.elements (Members.get? members "targets"))
      content.targets ∧
    Decodings RouteBinding.decode (Doc.elements (Members.get? members "bindings"))
      content.bindings
  | entityTabs, value, content => ListRead EntityTab.decode value content
  | mountPoints, value, content => ListRead MountPoint.decode value content
  | appIcons, value, content => ListRead AppIcon.decode value content
  | apiFactories, value, content => ListRead ModuleImport.decode value content
  | analyticsApiExtensions, value, content => ListRead ModuleImport.decode value content
  | providerSettings, value, content => ListRead ProviderSetting.decode value content
  | scaffolderFieldExtensions, value, content => ListRead ModuleImport.decode value content
  | signInPage, value, content => content = SignInPage.decode value
  | techdocsAddons, value, content => ListRead TechdocsAddon.decode value content
  | themes, value, content => ListRead Theme.decode value content
  | localeResources, value, content => ListRead LocaleResource.decode value content

/-! ## Shapes -/

section Shapes

variable {category : Fragment.Category} {value : Doc}

theorem Fragment.listRead_decodable_iff (decode : Doc → Option α) :
    ListRead decode value (decodable decode (some value)) ↔
      CategoryShape.list.fits value = true := by
  constructor
  · rintro ⟨items, rfl, -⟩
    rfl
  · intro fits
    cases value with
    | array items => exact ⟨items, rfl, decodings_decodable decode (some (.array items))⟩
    | null | bool _ | number _ | string _ | object _ => cases fits

theorem Fragment.decodable_of_not_fits (decode : Doc → Option α)
    (unfit : CategoryShape.list.fits value = false) : decodable decode (some value) = [] := by
  cases value with
  | array _ => cases unfit
  | null | bool _ | number _ | string _ | object _ => rfl

/-- A value is read as what it is exactly when it has the shape that linting asks for. -/
theorem Fragment.Category.read_decode_iff (distinct : value.KeysDistinct)
    (notPage : category ≠ signInPage) :
    category.Read value (category.decode (some value)) ↔
      (CategoryShape.ofCategory category.key).fits value = true := by
  have given : ∀ doc, some value = some doc → doc.KeysDistinct :=
    fun _ same => Option.some.inj same ▸ distinct
  cases category with
  | signInPage => exact (notPage rfl).elim
  | pluginModule =>
      change (∃ text, value = .string text ∧ value.string? = some text) ↔
        CategoryShape.text.fits value = true
      constructor
      · rintro ⟨text, rfl, -⟩
        rfl
      · intro fits
        cases value with
        | string text => exact ⟨text, rfl, rfl⟩
        | null | bool _ | number _ | array _ | object _ => cases fits
  | menuItems =>
      change _ ↔ CategoryShape.map.fits value = true
      constructor
      · rintro ⟨members, rfl, -⟩
        rfl
      · intro fits
        cases value with
        | object members =>
            exact ⟨members, rfl, decodings_decodableMembers MenuOverride.decode given⟩
        | null | bool _ | number _ | string _ | array _ => cases fits
  | routeBindings =>
      change _ ↔ CategoryShape.map.fits value = true
      constructor
      · rintro ⟨members, rfl, -⟩
        rfl
      · intro fits
        cases value with
        | object members =>
            exact ⟨members, rfl, decodings_decodable _ _, decodings_decodable _ _⟩
        | null | bool _ | number _ | string _ | array _ => cases fits
  | dynamicRoutes | entityTabs | mountPoints | appIcons | apiFactories | analyticsApiExtensions
  | providerSettings | scaffolderFieldExtensions | techdocsAddons | themes | localeResources =>
      exact listRead_decodable_iff _

/-- A value without that shape is read like none at all. -/
theorem Fragment.Category.decode_of_not_fits (notPage : category ≠ signInPage)
    (unfit : (CategoryShape.ofCategory category.key).fits value = false) :
    category.decode (some value) = category.decode none := by
  cases category with
  | signInPage => exact (notPage rfl).elim
  | pluginModule =>
      cases value with
      | string _ => cases unfit
      | null | bool _ | number _ | array _ | object _ => rfl
  | menuItems | routeBindings =>
      cases value with
      | object _ => cases unfit
      | null | bool _ | number _ | string _ | array _ => rfl
  | dynamicRoutes | entityTabs | mountPoints | appIcons | apiFactories | analyticsApiExtensions
  | providerSettings | scaffolderFieldExtensions | techdocsAddons | themes | localeResources =>
      exact decodable_of_not_fits _ unfit

end Shapes

/-! ## What findings reject -/

section Rejected

variable {doc value : Doc} {scope key : String} {members : Members Doc}

theorem FrontendFinding.isAbout_of_rejectsKey {finding : FrontendFinding}
    (rejects : finding.rejectsKey scope key = true) : finding.IsAbout scope key := by
  cases finding with
  | unknownCategory | wrongShape =>
      obtain ⟨sameScope, sameKey⟩ := Bool.and_eq_true_iff.1 rejects
      exact ⟨eq_of_beq sameScope, eq_of_beq sameKey⟩
  | notScopes | notCategories | signInPageIgnored | atomNeverHolds => cases rejects

/-- What is wrong with the content of a value does not reject its key. -/
theorem Lint.not_rejectsKey_of_mem_categoryContent {finding : FrontendFinding}
    (mem : finding ∈ categoryContent scope key value) :
    finding.rejectsKey scope key = false := by
  rcases mem_categoryContent_iff.1 mem with ⟨rfl, -⟩ | ⟨-, atom⟩
  · rfl
  · obtain ⟨_, _, _, _, -, -, rfl⟩ := mem_mountPoints_iff.1 atom
    rfl

/-- A key is rejected when it is no category or when its value, unless it is `null`, does not have
the shape of the category. -/
theorem Lint.any_rejectsKey_iff (distinct : doc.KeysDistinct)
    (plugin : doc.get? scope = some (.object members)) (own : members.get? key = some value) :
    (frontend doc).any (·.rejectsKey scope key) = true ↔
      key ∉ Fragment.categories ∨
        value ≠ .null ∧ (CategoryShape.ofCategory key).fits value = false := by
  have here (finding : FrontendFinding) :
      finding ∈ frontend doc ∧ finding.IsAbout scope key ↔ finding ∈ category scope key value :=
    mem_frontend_isAbout_iff distinct plugin own
  rw [List.any_eq_true]
  constructor
  · rintro ⟨finding, mem, rejects⟩
    have about := FrontendFinding.isAbout_of_rejectsKey rejects
    rcases mem_category_iff.1 ((here _).1 ⟨mem, about⟩) with
      ⟨-, unknown⟩ | ⟨-, -, given, unfit⟩ | ⟨content, -⟩
    · exact Or.inl unknown
    · exact Or.inr ⟨given, unfit⟩
    · rw [not_rejectsKey_of_mem_categoryContent content] at rejects
      cases rejects
  · intro ignored
    by_cases known : key ∈ Fragment.categories
    · obtain ⟨given, unfit⟩ := ignored.resolve_left (not_not_intro known)
      have mem : FrontendFinding.wrongShape scope key (.ofCategory key) value ∈
          category scope key value :=
        mem_category_iff.2 (Or.inr (Or.inl ⟨rfl, known, given, unfit⟩))
      exact ⟨_, ((here _).2 mem).1, by simp [FrontendFinding.rejectsKey]⟩
    · have mem : FrontendFinding.unknownCategory scope key ∈ category scope key value :=
        mem_category_iff.2 (Or.inl ⟨rfl, known⟩)
      exact ⟨_, ((here _).2 mem).1, by simp [FrontendFinding.rejectsKey]⟩

theorem Lint.any_rejectsScope_of_object (distinct : doc.KeysDistinct)
    (plugin : doc.get? scope = some (.object members)) :
    (frontend doc).any (·.rejectsScope scope) = false := by
  rw [List.any_eq_false]
  intro finding mem rejects
  rcases mem_frontend_iff.1 mem with ⟨rfl, -⟩ | ⟨name, other, memScopes, memScope⟩
  · cases rejects
  rcases mem_scope_iff.1 memScope with ⟨rfl, plain, -⟩ | ⟨key, value, -, memCategory⟩
  · obtain rfl : name = scope := eq_of_beq rejects
    obtain rfl := eq_of_mem_scopes distinct plugin memScopes
    cases plain
  · have about := isAbout_of_mem_category memCategory
    cases finding with
    | notScopes | notCategories => cases about
    | unknownCategory | wrongShape | signInPageIgnored | atomNeverHolds => cases rejects

end Rejected

/-! ## The frontend that is left -/

section Tidied

variable {doc : Doc} {scope : String} {members : Members Doc}

theorem Lint.ofMembers_tidied (distinct : doc.KeysDistinct)
    (plugin : doc.get? scope = some (.object members)) :
    Fragment.ofMembers (members.revise (tidiedValue (frontend doc) scope)) =
      Fragment.ofMembers members := by
  have inner : members.keys.Nodup := (distinct.of_get? plugin).1
  apply Fragment.eq_of_content
  intro category
  rw [category.content_ofMembers, category.content_ofMembers, Members.get?_revise _ inner]
  cases own : members.get? category.key with
  | none => rfl
  | some value =>
      rw [Option.bind_some, tidiedValue]
      split
      · next rejected =>
          obtain ⟨rejects, notPage⟩ := Bool.and_eq_true_iff.1 rejected
          have other : category ≠ .signInPage := by
            rintro rfl
            cases notPage
          have known : category.key ∈ Fragment.categories :=
            (Fragment.mem_categories_iff _).2 ⟨category, rfl⟩
          rcases (any_rejectsKey_iff distinct plugin own).1 rejects with unknown | ⟨-, unfit⟩
          · exact (unknown known).elim
          · exact (category.decode_of_not_fits other unfit).symm
      · rfl

theorem Lint.ofDoc_tidied (distinct : doc.KeysDistinct) :
    Frontend.ofDoc (tidied (frontend doc) doc) = Frontend.ofDoc doc := by
  cases doc with
  | object scopes =>
      rw [tidied, Frontend.ofDoc, Frontend.ofDoc, List.map_map]
      refine congrArg (fun scopes => Frontend.mk (.ofList scopes)) (List.map_congr_left ?_)
      rintro ⟨scope, plugin⟩ mem
      refine congrArg (Prod.mk scope) ?_
      change Fragment.ofDoc (tidiedScope (frontend (.object scopes)) scope plugin) =
        Fragment.ofDoc plugin
      unfold tidiedScope
      cases plugin with
      | object members =>
          have own : (Doc.object scopes).get? scope = some (.object members) :=
            Members.get?_of_mem distinct.1 mem
          rw [any_rejectsScope_of_object distinct own]
          exact ofMembers_tidied distinct own
      | null | bool _ | number _ | string _ | array _ => split <;> rfl
  | null | bool _ | number _ | string _ | array _ => rfl

/-- **What is reported as ignored is what is ignored.** Deleting from a frontend what its findings
reject leaves the same frontend declared; and a category, sign-in pages apart, is read as what its
value is exactly when no finding rejects it. -/
theorem Lint.reported_iff_not_read (doc : Doc) (distinct : doc.KeysDistinct) :
    Frontend.ofDoc (tidied (frontend doc) doc) = Frontend.ofDoc doc ∧
      ∀ (scope : String) (members : Members Doc) (category : Fragment.Category) (value : Doc),
        doc.get? scope = some (.object members) → members.get? category.key = some value →
        value ≠ .null → category ≠ .signInPage →
        ((∀ finding ∈ frontend doc, finding.rejectsKey scope category.key = false) ↔
          ∃ fragment, (Frontend.ofDoc doc).get? scope = some fragment ∧
            category.Read value (category.content fragment)) := by
  refine ⟨ofDoc_tidied distinct, ?_⟩
  intro scope members category value plugin own given notPage
  have known : category.key ∈ Fragment.categories :=
    (Fragment.mem_categories_iff _).2 ⟨category, rfl⟩
  have silent : (∀ finding ∈ frontend doc, finding.rejectsKey scope category.key = false) ↔
      (CategoryShape.ofCategory category.key).fits value = true := by
    have rejected := any_rejectsKey_iff distinct plugin own
    simp only [known, given, not_true_eq_false, ne_eq, not_false_eq_true, true_and,
      false_or] at rejected
    rw [← Bool.not_eq_false, ← rejected, List.any_eq_true]
    simp only [not_exists, not_and, Bool.not_eq_true]
  have read : (Frontend.ofDoc doc).get? scope = some (Fragment.ofDoc (.object members)) := by
    rw [Frontend.get?_ofDoc distinct, plugin, Option.map_some]
  have content : category.content (Fragment.ofDoc (.object members)) =
      category.decode (some value) := by
    rw [category.content_ofDoc]
    exact congrArg category.decode own
  have distinctValue : value.KeysDistinct := (distinct.of_get? plugin).of_get? own
  rw [silent, ← category.read_decode_iff distinctValue notPage, ← content, read]
  simp only [Option.some.injEq, exists_eq_left']

end Tidied

theorem Lint.reported_iff_not_read_malformedSample :
    Frontend.malformedSample.KeysDistinct ∧
      tidied (frontend Frontend.malformedSample) Frontend.malformedSample = .object
        [("acme.docs", .object
            [("dynamicRoutes", .array
                [.object [("path", .string "/docs"), ("menuItem", .string "Docs"),
                    ("config", .object [])],
                  .object [("path", .bool true)]]),
              ("menuItems", .object [("docs", .object []), ("other", .string "Other")]),
              ("routeBindings", .object
                [("targets", .array [.null, .object []]), ("bindings", .object [])]),
              ("signInPage", .null),
              ("techdocsAddons", .array
                [.object [("importName", .string "Report"), ("config", .string "")]])]),
          ("acme.none", .object [])] ∧
      Frontend.ofDoc (tidied (frontend Frontend.malformedSample) Frontend.malformedSample) =
        Frontend.ofDoc Frontend.malformedSample ∧
      (∃ fragment, (Frontend.ofDoc Frontend.malformedSample).get? "acme.docs" = some fragment ∧
        Fragment.Category.menuItems.Read
          (.object [("docs", .object []), ("other", .string "Other")]) fragment.menuItems) ∧
      ¬ ∃ fragment, (Frontend.ofDoc Frontend.malformedSample).get? "acme.docs" = some fragment ∧
        Fragment.Category.entityTabs.Read (.object []) fragment.entityTabs := by
  have distinct : Frontend.malformedSample.KeysDistinct := by
    simp [Frontend.malformedSample, Doc.KeysDistinct, Doc.ItemsDistinct, Doc.MembersDistinct,
      Members.keys]
  obtain ⟨same, readIff⟩ := reported_iff_not_read Frontend.malformedSample distinct
  refine ⟨distinct, rfl, same, ?_, ?_⟩
  · have silent : (frontend Frontend.malformedSample).any
        (·.rejectsKey "acme.docs" "menuItems") = false := rfl
    refine (readIff "acme.docs" _ .menuItems _ rfl rfl Doc.noConfusion
      Fragment.Category.noConfusion).1 fun finding mem => ?_
    exact Bool.eq_false_iff.2 (List.any_eq_false.1 silent finding mem)
  · intro read
    have rejected : (frontend Frontend.malformedSample).any
        (·.rejectsKey "acme.docs" "entityTabs") = true := rfl
    obtain ⟨finding, mem, rejects⟩ := List.any_eq_true.1 rejected
    have silent := (readIff "acme.docs" _ .entityTabs _ rfl rfl Doc.noConfusion
      Fragment.Category.noConfusion).2 read finding mem
    exact Bool.false_ne_true (silent.symm.trans rejects)

end PortalConfig
