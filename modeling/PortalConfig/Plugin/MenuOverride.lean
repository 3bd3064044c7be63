import PortalConfig.Plugin.Route

/-!
# Menu overrides

An entry under `menuItems` sets fields of the menu node with that name, or creates the node. Of
several entries for one node the later one wins, field by field.
-/

namespace PortalConfig

/-- The fields that an override sets. -/
structure MenuOverride where
  icon : Option String
  title : Option String
  priority : Option Int64
  parent : Option String
deriving DecidableEq

namespace MenuOverride

/-- Sets nothing. -/
def none : MenuOverride := ⟨.none, .none, .none, .none⟩

def decode : Doc → Option MenuOverride := Doc.record do
  let icon ← Record.optional "icon" Doc.string?
  let title ← Record.optional "title" Doc.string?
  let priority ← Record.optional "priority" Doc.int64?
  let parent ← Record.optional "parent" Doc.string?
  return { icon, title, priority, parent }

def encode (item : MenuOverride) : Doc :=
  .object [("icon", .ofOption .string item.icon), ("title", .ofOption .string item.title),
    ("priority", .ofOption .ofInt64 item.priority),
    ("parent", .ofOption .string item.parent)]

/-- Both overrides together; the later one wins where both set a field. -/
def andThen (earlier later : MenuOverride) : MenuOverride where
  icon := later.icon.or earlier.icon
  title := later.title.or earlier.title
  priority := later.priority.or earlier.priority
  parent := later.parent.or earlier.parent

end MenuOverride

end PortalConfig
