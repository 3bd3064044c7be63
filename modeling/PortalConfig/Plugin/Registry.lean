import PortalConfig.Plugin.Menu

/-!
# The resolved registry

Resolving a frontend goes through the scopes in their order. Every scope fills in the defaults of
its entries and adds them behind those that are registered, category by category. Nothing is merged
or reordered, and nothing is dropped but sign-in pages without an export.
-/

namespace PortalConfig

/-- The module of a plugin scope. -/
structure PluginModule where
  scope : String
  module : String
deriving DecidableEq

/-- Everything that the enabled plugins contribute, flattened per category. -/
structure Registry where
  pluginModules : List PluginModule
  apiFactories : List ImportEntry
  analyticsApiExtensions : List ImportEntry
  appIcons : List AppIconEntry
  dynamicRoutes : List RouteEntry
  menuItems : List MenuItem
  entityTabs : List EntityTabEntry
  mountPoints : List MountPointEntry
  routeBindings : List RouteBinding
  routeBindingTargets : List BindingTargetEntry
  providerSettings : List ProviderSetting
  scaffolderFieldExtensions : List ImportEntry
  signInPages : List ImportEntry
  techdocsAddons : List TechdocsAddonEntry
  themes : List ThemeEntry
  localeResources : List LocaleEntry

namespace PluginModule

def encode (entry : PluginModule) : Doc :=
  .object [("scope", .string entry.scope), ("module", .string entry.module)]

end PluginModule

namespace Registry

/-- The registry without any plugins. -/
def empty : Registry where
  pluginModules := []
  apiFactories := []
  analyticsApiExtensions := []
  appIcons := []
  dynamicRoutes := []
  menuItems := []
  entityTabs := []
  mountPoints := []
  routeBindings := []
  routeBindingTargets := []
  providerSettings := []
  scaffolderFieldExtensions := []
  signInPages := []
  techdocsAddons := []
  themes := []
  localeResources := []

/-- A list of the registry with the entries of one more scope, their defaults filled in. -/
def extend (registered : List β) (resolve : String → α → β) (scope : String) (entries : List α) :
    List β :=
  registered ++ entries.map (resolve scope)

/-- Registers everything that one more scope declares. The menu is made of all scopes together and
stays what it is. -/
def addScope (registry : Registry) : String × Fragment → Registry
  | (scope, fragment) =>
    { registry with
      pluginModules := registry.pluginModules ++
        [{ scope, module := fragment.pluginModule.getD defaultModule }]
      dynamicRoutes := extend registry.dynamicRoutes Route.resolve scope fragment.dynamicRoutes
      entityTabs := extend registry.entityTabs EntityTab.resolve scope fragment.entityTabs
      mountPoints := extend registry.mountPoints MountPoint.resolve scope fragment.mountPoints
      appIcons := extend registry.appIcons AppIcon.resolve scope fragment.appIcons
      apiFactories := extend registry.apiFactories ModuleImport.resolve scope fragment.apiFactories
      analyticsApiExtensions := extend registry.analyticsApiExtensions ModuleImport.resolve scope
        fragment.analyticsApiExtensions
      scaffolderFieldExtensions := extend registry.scaffolderFieldExtensions ModuleImport.resolve
        scope fragment.scaffolderFieldExtensions
      techdocsAddons :=
        extend registry.techdocsAddons TechdocsAddon.resolve scope fragment.techdocsAddons
      themes := extend registry.themes Theme.resolve scope fragment.themes
      localeResources :=
        extend registry.localeResources LocaleResource.resolve scope fragment.localeResources
      routeBindingTargets := extend registry.routeBindingTargets BindingTarget.resolve scope
        fragment.routeBindings.targets
      routeBindings := registry.routeBindings ++ fragment.routeBindings.bindings
      providerSettings := registry.providerSettings ++ fragment.providerSettings
      signInPages :=
        match fragment.signInPage.bind (SignInPage.resolve? scope) with
        | some page => registry.signInPages ++ [page]
        | none => registry.signInPages }

end Registry

/-- Resolves everything that the plugins declare, one scope after the other. -/
def Frontend.resolve (frontend : Frontend) : Registry :=
  { frontend.toList.foldl Registry.addScope .empty with menuItems := Menu.ofFrontend frontend }

namespace Registry

/-- A list of entries as a document. -/
def encodeEach (encode : α → Doc) (entries : List α) : Doc := .array (entries.map encode)

def encode (registry : Registry) : Doc :=
  .object
    [("pluginModules", encodeEach PluginModule.encode registry.pluginModules),
      ("apiFactories", encodeEach ImportEntry.encode registry.apiFactories),
      ("analyticsApiExtensions", encodeEach ImportEntry.encode registry.analyticsApiExtensions),
      ("appIcons", encodeEach AppIconEntry.encode registry.appIcons),
      ("dynamicRoutes", encodeEach RouteEntry.encode registry.dynamicRoutes),
      ("menuItems", .array (MenuItem.encodeAll registry.menuItems)),
      ("entityTabs", encodeEach EntityTabEntry.encode registry.entityTabs),
      ("mountPoints", encodeEach MountPointEntry.encode registry.mountPoints),
      ("routeBindings", encodeEach RouteBinding.encode registry.routeBindings),
      ("routeBindingTargets", encodeEach BindingTargetEntry.encode registry.routeBindingTargets),
      ("providerSettings", encodeEach ProviderSetting.encode registry.providerSettings),
      ("scaffolderFieldExtensions",
        encodeEach ImportEntry.encode registry.scaffolderFieldExtensions),
      ("signInPages", encodeEach ImportEntry.encode registry.signInPages),
      ("techdocsAddons", encodeEach TechdocsAddonEntry.encode registry.techdocsAddons),
      ("themes", encodeEach ThemeEntry.encode registry.themes),
      ("translationResources", encodeEach LocaleEntry.encode registry.localeResources)]

end Registry

namespace PluginSection

/-- Resolves the section; without a frontend the registry is empty. -/
def resolve (plugins : PluginSection) : Registry :=
  match plugins.frontend with
  | some frontend => frontend.resolve
  | none => .empty

end PluginSection

end PortalConfig
