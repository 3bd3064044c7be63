import PortalConfig.Proofs.Frontend

/-!
# Categories

A plugin writes every kind of extension point under a key of its own. `Fragment.Category`
enumerates the kinds; `content` is what a fragment holds of one, `decode` what is read from the
value under its key. A category is read off that value and off nothing else
(`Fragment.Category.content_ofMembers`).
-/

namespace PortalConfig

/-- The kinds of things that a fragment declares. -/
inductive Fragment.Category
  | pluginModule
  | dynamicRoutes
  | menuItems
  | routeBindings
  | entityTabs
  | mountPoints
  | appIcons
  | apiFactories
  | analyticsApiExtensions
  | providerSettings
  | scaffolderFieldExtensions
  | signInPage
  | techdocsAddons
  | themes
  | localeResources

namespace Fragment.Category

/-- The key under which a plugin writes a category. -/
def key : Category → String
  | pluginModule => "pluginModule"
  | dynamicRoutes => "dynamicRoutes"
  | menuItems => "menuItems"
  | routeBindings => "routeBindings"
  | entityTabs => "entityTabs"
  | mountPoints => "mountPoints"
  | appIcons => "appIcons"
  | apiFactories => "apiFactories"
  | analyticsApiExtensions => "analyticsApiExtensions"
  | providerSettings => "providerSettings"
  | scaffolderFieldExtensions => "scaffolderFieldExtensions"
  | signInPage => "signInPage"
  | techdocsAddons => "techdocsAddons"
  | themes => "themes"
  | localeResources => "translationResources"

/-- The type of what a category holds. -/
abbrev Content : Category → Type
  | pluginModule => Option String
  | dynamicRoutes => List Route
  | menuItems => Keyed MenuOverride
  | routeBindings => RouteBindings
  | entityTabs => List EntityTab
  | mountPoints => List MountPoint
  | appIcons => List AppIcon
  | apiFactories | analyticsApiExtensions | scaffolderFieldExtensions => List ModuleImport
  | providerSettings => List ProviderSetting
  | signInPage => Option SignInPage
  | techdocsAddons => List TechdocsAddon
  | themes => List Theme
  | localeResources => List LocaleResource

/-- What a fragment holds of a category. -/
def content : (category : Category) → Fragment → category.Content
  | pluginModule, fragment => fragment.pluginModule
  | dynamicRoutes, fragment => fragment.dynamicRoutes
  | menuItems, fragment => fragment.menuItems
  | routeBindings, fragment => fragment.routeBindings
  | entityTabs, fragment => fragment.entityTabs
  | mountPoints, fragment => fragment.mountPoints
  | appIcons, fragment => fragment.appIcons
  | apiFactories, fragment => fragment.apiFactories
  | analyticsApiExtensions, fragment => fragment.analyticsApiExtensions
  | providerSettings, fragment => fragment.providerSettings
  | scaffolderFieldExtensions, fragment => fragment.scaffolderFieldExtensions
  | signInPage, fragment => fragment.signInPage
  | techdocsAddons, fragment => fragment.techdocsAddons
  | themes, fragment => fragment.themes
  | localeResources, fragment => fragment.localeResources

/-- What is read of a category from the value under its key. -/
def decode : (category : Category) → Option Doc → category.Content
  | pluginModule, given => given.bind Doc.string?
  | dynamicRoutes, given => decodable Route.decode given
  | menuItems, given => decodableMembers MenuOverride.decode given
  | routeBindings, given => decodableBindings given
  | entityTabs, given => decodable EntityTab.decode given
  | mountPoints, given => decodable MountPoint.decode given
  | appIcons, given => decodable AppIcon.decode given
  | apiFactories, given => decodable ModuleImport.decode given
  | analyticsApiExtensions, given => decodable ModuleImport.decode given
  | providerSettings, given => decodable ProviderSetting.decode given
  | scaffolderFieldExtensions, given => decodable ModuleImport.decode given
  | signInPage, given => given.bind SignInPage.decode
  | techdocsAddons, given => decodable TechdocsAddon.decode given
  | themes, given => decodable Theme.decode given
  | localeResources, given => decodable LocaleResource.decode given

end Fragment.Category

/-- Every category, in the order of the keys of a fragment. -/
def Fragment.Category.all : List Category :=
  [pluginModule, dynamicRoutes, menuItems, routeBindings, entityTabs, mountPoints, appIcons,
    apiFactories, analyticsApiExtensions, providerSettings, scaffolderFieldExtensions, signInPage,
    techdocsAddons, themes, localeResources]

theorem Fragment.Category.mem_all (category : Category) : category ∈ all := by
  cases category <;> simp [all]

/-- The keys of a fragment are the keys of the categories. -/
theorem Fragment.mem_categories_iff (key : String) :
    key ∈ categories ↔ ∃ category : Category, category.key = key := by
  have keys : categories = Category.all.map Category.key := rfl
  rw [keys, List.mem_map]
  constructor
  · intro holds
    rcases holds with ⟨category, -, eq⟩
    exact ⟨category, eq⟩
  · intro holds
    rcases holds with ⟨category, eq⟩
    exact ⟨category, category.mem_all, eq⟩

/-- A category of the fragment of an object is read off the value under its key. -/
theorem Fragment.Category.content_ofMembers (category : Category) (members : Members Doc) :
    category.content (ofMembers members) = category.decode (members.get? category.key) := by
  cases category <;> rfl

theorem Fragment.Category.content_ofDoc (category : Category) (doc : Doc) :
    category.content (ofDoc doc) = category.decode (doc.get? category.key) := by
  cases doc with
  | object members => exact category.content_ofMembers members
  | null | bool _ | number _ | string _ | array _ => exact category.content_ofMembers []

/-- A fragment is what it holds of the categories. -/
theorem Fragment.eq_of_content {fragment other : Fragment}
    (same : ∀ category : Category, category.content fragment = category.content other) :
    fragment = other := by
  rcases fragment with ⟨_, _, _, _, _, _, _, _, _, _, _, _, _, _, _⟩
  rcases other with ⟨_, _, _, _, _, _, _, _, _, _, _, _, _, _, _⟩
  rw [Fragment.mk.injEq]
  exact ⟨same .pluginModule, same .dynamicRoutes, same .menuItems, same .routeBindings,
    same .entityTabs, same .mountPoints, same .appIcons, same .apiFactories,
    same .analyticsApiExtensions, same .providerSettings, same .scaffolderFieldExtensions,
    same .signInPage, same .techdocsAddons, same .themes, same .localeResources⟩

end PortalConfig
