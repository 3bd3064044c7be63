import PortalConfig.Plugin.Frontend

/-!
# The sidebar menu

Routes with a text for a menu item contribute nodes, named after their path; `menuItems` entries
override the fields of nodes or create nodes of their own. The nodes are then placed under their
parents. A node whose parent is not there, or that lies on a cycle of parents, is a root, so that
every node stands in the tree exactly once. Siblings stand by descending priority, those of equal
priority in the order in which their nodes were first contributed.
-/

namespace PortalConfig

/-- A node of the menu before it is placed. -/
structure MenuNode where
  title : String
  icon : String
  priority : Option Int64
  link : Option String
  parent : Option String
  enabled : Option Bool
deriving DecidableEq

/-- A node of the menu tree. -/
inductive MenuItem
  | node (name : String) (fields : MenuNode) (children : List MenuItem)

namespace MenuNode

/-- A node with nothing set. -/
def blank : MenuNode := ⟨"", "", none, none, none, none⟩

/-- The node that a route contributes. -/
def ofRoute (path : String) (item : RouteMenuText) : MenuNode where
  title := item.text
  icon := item.icon
  priority := item.priority
  link := some path
  parent := item.parent
  enabled := item.enabled

/-- Sets the fields that an override sets. -/
def override (node : MenuNode) (item : MenuOverride) : MenuNode :=
  { node with
    title := item.title.getD node.title
    icon := item.icon.getD node.icon
    priority := item.priority.or node.priority
    parent := item.parent.or node.parent }

/-- The priority that a node is sorted by. -/
def rank (node : MenuNode) : Int64 := node.priority.getD 0

end MenuNode

namespace MenuItem

def name : MenuItem → String
  | .node name _ _ => name

def fields : MenuItem → MenuNode
  | .node _ fields _ => fields

def children : MenuItem → List MenuItem
  | .node _ _ children => children

mutual

/-- The first item with a name, the item itself before its descendants. -/
def find? (name : String) : MenuItem → Option MenuItem
  | .node own fields children =>
    if own = name then some (.node own fields children) else findAmong? name children

/-- The first item with a name in a list of trees. -/
def findAmong? (name : String) : List MenuItem → Option MenuItem
  | [] => none
  | item :: rest => (find? name item).or (findAmong? name rest)

end

mutual

def encode : MenuItem → Doc
  | .node name fields children =>
    .object ([("name", .string name), ("title", .string fields.title),
        ("icon", .string fields.icon), ("children", .array (encodeAll children))] ++
      optionalMember "priority" .ofInt64 fields.priority ++
      optionalMember "to" .string fields.link ++
      optionalMember "parent" .string fields.parent ++
      optionalMember "enabled" .bool fields.enabled)

def encodeAll : List MenuItem → List Doc
  | [] => []
  | item :: rest => encode item :: encodeAll rest

end

end MenuItem

namespace Menu

/-- Leaves out slashes at both ends. -/
def trimSlashes (path : List Char) : List Char :=
  ((path.dropWhile (· == '/')).reverse.dropWhile (· == '/')).reverse

/-- The name of the node of a route: its path with dots for slashes, `root` for the root path. -/
def nodeName (path : String) : String :=
  match trimSlashes path.toList with
  | [] => "root"
  | trimmed => String.ofList (trimmed.map fun c => if c = '/' then '.' else c)

/-- The nodes that routes contribute, with their names, in order. -/
def routeNodes (frontend : Frontend) : List (String × MenuNode) :=
  frontend.fragments.flatMap fun fragment => fragment.dynamicRoutes.filterMap fun route =>
    route.menuText?.map fun item => (nodeName route.path, MenuNode.ofRoute route.path item)

/-- The overrides, with the names of their nodes, in order. -/
def overrides (frontend : Frontend) : List (String × MenuOverride) :=
  frontend.fragments.flatMap fun fragment => fragment.menuItems.members

/-- The overrides by node: later ones win field by field. -/
def mergedOverrides (frontend : Frontend) : Keyed MenuOverride :=
  (overrides frontend).foldl (fun acc (name, item) =>
    acc.upsert name fun present => (present.getD .none).andThen item) .empty

/-- All nodes: those of routes, the last route of a name deciding, then those that only overrides
name, each with its overrides applied. -/
def nodes (frontend : Frontend) : Keyed MenuNode :=
  (mergedOverrides frontend).members.foldl (fun acc (name, item) =>
    acc.upsert name fun present => (present.getD .blank).override item)
    (.ofList (routeNodes frontend))

/-- The parent of a node, when it names one that is there. -/
def presentParent (nodes : Keyed MenuNode) (name : String) : Option String :=
  (nodes.get? name).bind fun node => node.parent.filter nodes.contains

/-- The ancestors met by following parents: up to the end of the chain, or to the first one that
is not among the `fresh` names, which has then been met before. -/
def ancestors (parent : String → Option String) (fresh : List String) :
    Option String → List String
  | none => []
  | some ancestor =>
    if ancestor ∈ fresh then
      ancestor :: ancestors parent (fresh.erase ancestor) (parent ancestor)
    else [ancestor]
termination_by fresh.length
decreasing_by
  rename_i mem
  have := List.length_pos_of_mem mem
  rw [List.length_erase_of_mem mem]
  omega

/-- The parent that a node is placed under: the one it names, unless that is not there or the
node is one of its own ancestors. -/
def effectiveParent (nodes : Keyed MenuNode) (name : String) : Option String :=
  let parent := presentParent nodes
  if name ∈ ancestors parent nodes.keys (parent name) then none else parent name

/-- Siblings in their final order. -/
def sortByRank (items : List MenuItem) : List MenuItem :=
  items.mergeSort fun a b => b.fields.rank ≤ a.fields.rank

/-- Taking out a part that is not empty leaves a shorter list. -/
theorem length_filter_not_lt {pool : List String} {p : String → Bool}
    (nonempty : pool.filter p ≠ []) : (pool.filter fun name => !p name).length < pool.length := by
  obtain ⟨name, mem⟩ := List.exists_mem_of_ne_nil _ nonempty
  rw [List.mem_filter] at mem
  exact List.length_filter_lt_length_iff_exists.2 ⟨name, mem.1, by simp [mem.2]⟩

/-- The trees of the names in `pool` that belong under `parent`, each with its descendants among
the other names of the pool. -/
def forest (nodes : Keyed MenuNode) (pool : List String) (parent : Option String) :
    List MenuItem :=
  let belongs (name : String) : Bool := effectiveParent nodes name == parent
  let siblings := pool.filter belongs
  if nonempty : siblings = [] then []
  else
    have : (pool.filter fun name => !belongs name).length < pool.length :=
      length_filter_not_lt nonempty
    sortByRank <| siblings.map fun name =>
      .node name ((nodes.get? name).getD .blank)
        (forest nodes (pool.filter fun name => !belongs name) (some name))
termination_by pool.length
decreasing_by assumption

/-- The menu of a frontend. -/
def ofFrontend (frontend : Frontend) : List MenuItem :=
  let nodes := nodes frontend
  forest nodes nodes.keys none

end Menu

end PortalConfig
