import PortalConfig.Plugin.Fragment

/-!
# The frontend configuration

The fragments of all plugin scopes, in the order in which the scopes are declared. That order is
the precedence order of everything resolved from them; declaring a scope again changes its
fragment and keeps its place.
-/

namespace PortalConfig

/-- The fragments by plugin scope. -/
structure Frontend where
  scopes : Keyed Fragment

namespace Frontend

/-- No plugins. -/
def empty : Frontend := ⟨.empty⟩

/-- Adds or replaces a scope. -/
def insert (frontend : Frontend) (scope : String) (fragment : Fragment) : Frontend :=
  ⟨frontend.scopes.insert scope fragment⟩

/-- The fragment of a scope. -/
def get? (frontend : Frontend) (scope : String) : Option Fragment := frontend.scopes.get? scope

/-- The scopes and their fragments, in order. -/
def toList (frontend : Frontend) : List (String × Fragment) := frontend.scopes.members

/-- The fragments, in the order of their scopes. -/
def fragments (frontend : Frontend) : List Fragment := frontend.scopes.values

/-- The names of the scopes, in order. -/
def scopeNames (frontend : Frontend) : List String := frontend.scopes.keys

/-- The configuration that a document declares; anything but an object declares no plugins. -/
def ofDoc : Doc → Frontend
  | .object members => ⟨.ofList (members.map fun (scope, doc) => (scope, Fragment.ofDoc doc))⟩
  | _ => empty

end Frontend

/-- The `dynamicPlugins` section of the configuration. -/
structure PluginSection where
  frontend : Option Frontend

namespace PluginSection

def decode : Doc → Option PluginSection := Doc.record do
  let frontend ← Record.optional "frontend" fun doc => some (Frontend.ofDoc doc)
  return { frontend }

end PluginSection

end PortalConfig
