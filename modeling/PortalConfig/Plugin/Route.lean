import PortalConfig.Plugin.Import

/-!
# Dynamic routes

A route mounts a page of a plugin under a path. Its menu item is either a text, which contributes
a node to the sidebar menu, or a component that the plugin renders itself. A menu item or a
configuration that does not decode is left out without taking the route with it.
-/

namespace PortalConfig

/-- The properties passed to a component. -/
structure ComponentConfig where
  props : Option (Members Doc)

/-- A menu item given by its text. -/
structure RouteMenuText where
  text : String
  icon : String
  parent : Option String
  priority : Option Int64
  enabled : Option Bool
deriving DecidableEq

/-- A menu item rendered by the plugin, as declared. -/
structure RouteMenuComponent where
  module : Option String
  importName : String
  config : Option ComponentConfig

/-- The menu item of a route, as declared. -/
inductive RouteMenuItem
  | text (item : RouteMenuText)
  | component (item : RouteMenuComponent)

/-- A route as declared. -/
structure Route where
  path : String
  module : Option String
  importName : Option String
  menuItem : Option RouteMenuItem
  config : Option ComponentConfig

/-- A menu item rendered by the plugin. -/
structure MenuComponentEntry where
  module : String
  importName : String
  config : Option ComponentConfig

/-- The menu item of a registered route. -/
inductive MenuItemEntry
  | text (item : RouteMenuText)
  | component (item : MenuComponentEntry)

/-- A registered route. -/
structure RouteEntry where
  scope : String
  module : String
  importName : String
  path : String
  menuItem : Option MenuItemEntry
  config : Option ComponentConfig

/-- A member that is left out when there is no value. -/
def optionalMember (key : String) (f : α → Doc) (value : Option α) : Members Doc :=
  match value with
  | some a => [(key, f a)]
  | none => []

/-- A sixty-four bit integer as a document. -/
def Doc.ofInt64 (n : Int64) : Doc := .int n.toInt

namespace ComponentConfig

def decode : Doc → Option ComponentConfig := Doc.record do
  let props ← Record.optional "props" Doc.object?
  return { props }

def encode (config : ComponentConfig) : Doc :=
  .object (optionalMember "props" .object config.props)

end ComponentConfig

namespace RouteMenuText

def decode : Doc → Option RouteMenuText := Doc.record do
  let text ← Record.required "text" Doc.string?
  let icon ← Record.required "icon" Doc.string?
  let parent ← Record.optional "parent" Doc.string?
  let priority ← Record.optional "priority" Doc.int64?
  let enabled ← Record.optional "enabled" Doc.bool?
  return { text, icon, parent, priority, enabled }

def encode (item : RouteMenuText) : Doc :=
  .object ([("text", .string item.text), ("icon", .string item.icon)] ++
    optionalMember "parent" .string item.parent ++
    optionalMember "priority" .ofInt64 item.priority ++
    optionalMember "enabled" .bool item.enabled)

end RouteMenuText

namespace RouteMenuComponent

def decode : Doc → Option RouteMenuComponent := Doc.record do
  let module ← Record.optional "module" Doc.string?
  let importName ← Record.required "importName" Doc.string?
  let config ← Record.optional "config" ComponentConfig.decode
  return { module, importName, config }

def encode (item : RouteMenuComponent) : Doc :=
  .object [("module", .ofOption .string item.module), ("importName", .string item.importName),
    ("config", .ofOption ComponentConfig.encode item.config)]

/-- Fills in the module. -/
def resolve (item : RouteMenuComponent) : MenuComponentEntry where
  module := item.module.getD defaultModule
  importName := item.importName
  config := item.config

end RouteMenuComponent

namespace RouteMenuItem

/-- What decodes as a text is a text; anything else has to be a component. -/
def decode (doc : Doc) : Option RouteMenuItem :=
  ((RouteMenuText.decode doc).map .text).or ((RouteMenuComponent.decode doc).map .component)

def encode : RouteMenuItem → Doc
  | .text item => item.encode
  | .component item => item.encode

def resolve : RouteMenuItem → MenuItemEntry
  | .text item => .text item
  | .component item => .component item.resolve

end RouteMenuItem

namespace Route

def decode : Doc → Option Route := Doc.record do
  let path ← Record.required "path" Doc.string?
  let module ← Record.optional "module" Doc.string?
  let importName ← Record.optional "importName" Doc.string?
  let menuItem ← Record.lenient "menuItem" RouteMenuItem.decode
  let config ← Record.lenient "config" ComponentConfig.decode
  return { path, module, importName, menuItem, config }

def encode (route : Route) : Doc :=
  .object [("path", .string route.path), ("module", .ofOption .string route.module),
    ("importName", .ofOption .string route.importName),
    ("menuItem", .ofOption RouteMenuItem.encode route.menuItem),
    ("config", .ofOption ComponentConfig.encode route.config)]

/-- Fills in the defaults. -/
def resolve (scope : String) (route : Route) : RouteEntry where
  scope
  module := route.module.getD defaultModule
  importName := route.importName.getD defaultImportName
  path := route.path
  menuItem := route.menuItem.map RouteMenuItem.resolve
  config := route.config

/-- The text of the route's menu item, if it has that form. -/
def menuText? (route : Route) : Option RouteMenuText :=
  match route.menuItem with
  | some (.text item) => some item
  | _ => none

end Route

namespace MenuComponentEntry

def encode (item : MenuComponentEntry) : Doc :=
  .object ([("module", .string item.module), ("importName", .string item.importName)] ++
    optionalMember "config" ComponentConfig.encode item.config)

end MenuComponentEntry

namespace MenuItemEntry

def encode : MenuItemEntry → Doc
  | .text item => item.encode
  | .component item => item.encode

end MenuItemEntry

namespace RouteEntry

def encode (route : RouteEntry) : Doc :=
  .object ([("scope", .string route.scope), ("module", .string route.module),
      ("importName", .string route.importName), ("path", .string route.path)] ++
    optionalMember "menuItem" MenuItemEntry.encode route.menuItem ++
    optionalMember "config" ComponentConfig.encode route.config)

end RouteEntry

end PortalConfig
