import PortalConfig.Plugin.Binding
import PortalConfig.Plugin.Icon
import PortalConfig.Plugin.MenuOverride
import PortalConfig.Plugin.MountPoint
import PortalConfig.Plugin.Provider
import PortalConfig.Plugin.Tab
import PortalConfig.Plugin.Techdocs
import PortalConfig.Plugin.Theme
import PortalConfig.Plugin.Locale

/-!
# Plugin fragments

A fragment is everything that one plugin scope declares, by category. Reading one never fails: an
entry that does not decode is dropped on its own, a category of the wrong shape counts as empty,
and a fragment that is no object declares nothing.
-/

namespace PortalConfig

/-- Everything that one plugin scope declares. -/
structure Fragment where
  pluginModule : Option String
  dynamicRoutes : List Route
  menuItems : Keyed MenuOverride
  routeBindings : RouteBindings
  entityTabs : List EntityTab
  mountPoints : List MountPoint
  appIcons : List AppIcon
  apiFactories : List ModuleImport
  analyticsApiExtensions : List ModuleImport
  providerSettings : List ProviderSetting
  scaffolderFieldExtensions : List ModuleImport
  signInPage : Option SignInPage
  techdocsAddons : List TechdocsAddon
  themes : List Theme
  localeResources : List LocaleResource

namespace Fragment

/-- The keys of a fragment. -/
def categories : List String :=
  ["pluginModule", "dynamicRoutes", "menuItems", "routeBindings", "entityTabs", "mountPoints",
    "appIcons", "apiFactories", "analyticsApiExtensions", "providerSettings",
    "scaffolderFieldExtensions", "signInPage", "techdocsAddons", "themes",
    "translationResources"]

/-- The items of a list that decode, in order. Anything but a list holds none. -/
def decodable (decode : Doc → Option α) : Option Doc → List α
  | some (.array items) => items.filterMap decode
  | _ => []

/-- The members of an object that decode, in order. Anything but an object holds none. -/
def decodableMembers (decode : Doc → Option α) : Option Doc → Keyed α
  | some (.object members) =>
    .ofList (members.filterMap fun (key, value) => (decode value).map fun a => (key, a))
  | _ => .empty

/-- The targets and bindings that decode. -/
def decodableBindings : Option Doc → RouteBindings
  | some (.object members) =>
    { targets := decodable BindingTarget.decode (Members.get? members "targets")
      bindings := decodable RouteBinding.decode (Members.get? members "bindings") }
  | _ => ⟨[], []⟩

/-- The fragment that an object declares. -/
def ofMembers (members : Members Doc) : Fragment where
  pluginModule := (members.get? "pluginModule").bind Doc.string?
  dynamicRoutes := decodable Route.decode (members.get? "dynamicRoutes")
  menuItems := decodableMembers MenuOverride.decode (members.get? "menuItems")
  routeBindings := decodableBindings (members.get? "routeBindings")
  entityTabs := decodable EntityTab.decode (members.get? "entityTabs")
  mountPoints := decodable MountPoint.decode (members.get? "mountPoints")
  appIcons := decodable AppIcon.decode (members.get? "appIcons")
  apiFactories := decodable ModuleImport.decode (members.get? "apiFactories")
  analyticsApiExtensions := decodable ModuleImport.decode (members.get? "analyticsApiExtensions")
  providerSettings := decodable ProviderSetting.decode (members.get? "providerSettings")
  scaffolderFieldExtensions :=
    decodable ModuleImport.decode (members.get? "scaffolderFieldExtensions")
  signInPage := (members.get? "signInPage").bind SignInPage.decode
  techdocsAddons := decodable TechdocsAddon.decode (members.get? "techdocsAddons")
  themes := decodable Theme.decode (members.get? "themes")
  localeResources := decodable LocaleResource.decode (members.get? "translationResources")

/-- Declares nothing. -/
def empty : Fragment := ofMembers []

/-- The fragment that a document declares. -/
def ofDoc : Doc → Fragment
  | .object members => ofMembers members
  | _ => empty

end Fragment

end PortalConfig
