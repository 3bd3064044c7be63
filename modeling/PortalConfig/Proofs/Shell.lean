import Mathlib.Data.List.Forall2
import PortalConfig.Plugin.Shell
import PortalConfig.Proofs.Keyed
import PortalConfig.Proofs.Visibility.Acceptance

/-!
# What the shell looks up

The shell keeps the registered mount points in groups by id. Each group holds the entries of its
id in the order of the registry, so looking an id up is filtering the registry by it
(`Shell.mountPoints_ofRegistry`), and the groups of all ids are a partition of the registry
(`Shell.perm_flatMap_mountPoints`). Tabs are kept by path, where the last one replaces those before
it (`Shell.get?_tabs_ofRegistry`). `Shell.arranges_ofRegistry` says both at once.
-/

namespace PortalConfig

variable (registry : Registry)

/-! ## Groups -/

/-- A run of additions appends to the group of an id the entries of that id, in order. -/
theorem Shell.getD_get?_foldl_addMountPoint (id : String) (entries : List MountPointEntry)
    (groups : Keyed (List RenderedMountPoint)) :
    ((entries.foldl addMountPoint groups).get? id).getD [] =
      (groups.get? id).getD [] ++
        (entries.filter fun entry => entry.mountPoint = id).map RenderedMountPoint.ofEntry := by
  induction entries generalizing groups with
  | nil => rw [List.foldl_nil, List.filter_nil, List.map_nil, List.append_nil]
  | cons entry rest ih =>
      rw [List.foldl_cons, ih]
      by_cases same : entry.mountPoint = id
      · have added : (addMountPoint groups entry).get? id =
            some ((groups.get? id).getD [] ++ [.ofEntry entry]) := by
          rw [← same]
          exact Keyed.get?_upsert_self groups entry.mountPoint _
        rw [added, Option.getD_some, List.filter_cons_of_pos (by simpa using same), List.map_cons,
          List.append_assoc, List.singleton_append]
      · have kept : (addMountPoint groups entry).get? id = groups.get? id :=
          Keyed.get?_upsert_of_ne groups _ (Ne.symm same)
        rw [kept, List.filter_cons_of_neg (by simpa using same)]

theorem Shell.mountPoints_ofRegistry (id : String) :
    (ofRegistry registry).mountPoints id =
      (registry.mountPoints.filter fun entry => entry.mountPoint = id).map .ofEntry :=
  getD_get?_foldl_addMountPoint id registry.mountPoints .empty

/-- Ids come in the order in which they are first registered. -/
theorem Shell.mountPointIds_ofRegistry :
    (ofRegistry registry).mountPointIds =
      (registry.mountPoints.map (·.mountPoint)).eraseDups :=
  Keyed.keys_foldl_upsert (fun entry : MountPointEntry => entry.mountPoint)
    (fun entry present => present.getD [] ++ [RenderedMountPoint.ofEntry entry])
    registry.mountPoints .empty

theorem Shell.nodup_mountPointIds (shell : Shell) : shell.mountPointIds.Nodup :=
  shell.groups.nodup

theorem Shell.mem_mountPointIds_iff (id : String) :
    id ∈ (ofRegistry registry).mountPointIds ↔
      ∃ entry ∈ registry.mountPoints, entry.mountPoint = id := by
  rw [mountPointIds_ofRegistry, List.mem_eraseDups, List.mem_map]

/-- Only an id under which something is registered has a group. -/
theorem Shell.mountPoints_eq_nil_iff (id : String) :
    (ofRegistry registry).mountPoints id = [] ↔ id ∉ (ofRegistry registry).mountPointIds := by
  rw [mountPoints_ofRegistry, List.map_eq_nil_iff, List.filter_eq_nil_iff, mem_mountPointIds_iff]
  simp only [decide_eq_true_eq, not_exists, not_and]

/-- The groups together hold what is registered, every mount point as often as it is. -/
theorem Shell.perm_flatMap_mountPoints :
    ((ofRegistry registry).mountPointIds.flatMap (ofRegistry registry).mountPoints).Perm
      (registry.mountPoints.map .ofEntry) := by
  have groups : (ofRegistry registry).mountPoints = fun id =>
      (registry.mountPoints.filter fun entry => entry.mountPoint = id).map .ofEntry :=
    funext (mountPoints_ofRegistry registry)
  have all : registry.mountPoints.filter
      (fun entry => entry.mountPoint ∈ (ofRegistry registry).mountPointIds) =
        registry.mountPoints := by
    refine List.filter_eq_self.2 fun entry mem => ?_
    exact decide_eq_true ((mem_mountPointIds_iff registry _).2 ⟨entry, mem, rfl⟩)
  have parts := flatMap_filter_perm (·.mountPoint) (nodup_mountPointIds (ofRegistry registry))
    registry.mountPoints
  rw [all] at parts
  rw [groups, ← List.map_flatMap]
  exact parts.map _

/-! ## Overrides -/

/-- What a tab overrides at its path. -/
def EntityTabEntry.override (tab : EntityTabEntry) : TabOverride where
  title := tab.title
  mountPoint := tab.mountPoint
  priority := tab.priority

theorem Shell.tabs_ofRegistry :
    (ofRegistry registry).tabs =
      Keyed.ofList (registry.entityTabs.map fun tab => (tab.path, tab.override)) := by
  rw [Keyed.ofList, Keyed.insertAll, List.foldl_map]
  rfl

/-- Paths come in the order in which they are first named. -/
theorem Shell.keys_tabs_ofRegistry :
    (ofRegistry registry).tabs.keys = (registry.entityTabs.map (·.path)).eraseDups := by
  rw [tabs_ofRegistry, Keyed.keys_ofList, Members.keys, List.map_map]
  rfl

/-- A path has the override of the last tab that names it. -/
theorem Shell.get?_tabs_ofRegistry (path : String) :
    (ofRegistry registry).tabs.get? path =
      ((registry.entityTabs.filter fun tab => tab.path = path).getLast?).map (·.override) := by
  have named : (registry.entityTabs.map fun tab => (tab.path, tab.override)).filterMap
      (fun pair => if pair.1 = path then some pair.2 else none) =
        (registry.entityTabs.filter fun tab => tab.path = path).map (·.override) := by
    rw [List.filterMap_map, ← List.filterMap_eq_map, List.filterMap_filter]
    refine List.filterMap_congr fun tab _ => ?_
    simp
  rw [tabs_ofRegistry, Keyed.get?_ofList, named, List.getLast?_map]

/-! ## The registry as the shell has it -/

/-- A mount point is rendered from an entry with all that is the entry's own; it shows for the
entities that the `if` block of the entry accepts. -/
structure RenderedMountPoint.Renders (rendered : RenderedMountPoint) (entry : MountPointEntry) :
    Prop where
  scope : rendered.scope = entry.scope
  module : rendered.module = entry.module
  importName : rendered.importName = entry.importName
  layout : rendered.layout = (entry.config.bind (·.layout)).getD []
  props : rendered.props = (entry.config.bind (·.props)).getD []
  extra : rendered.extra = (entry.config.map (·.extra)).getD []
  shows : ∀ entity capabilities, rendered.isVisible entity capabilities = true ↔
    ConditionBlock.Accepts entity capabilities (entry.config.bind (·.condition))

/-- The shell has the mount points of a registry by id and its tabs by path. -/
structure Shell.Arranges (shell : Shell) (registry : Registry) : Prop where
  /-- Every id is listed once, where it first occurs. -/
  ids : shell.mountPointIds = (registry.mountPoints.map (·.mountPoint)).eraseDups
  distinct : shell.mountPointIds.Nodup
  /-- The entries of an id stand under it in their order. -/
  group : ∀ id, List.Forall₂ RenderedMountPoint.Renders (shell.mountPoints id)
    (registry.mountPoints.filter fun entry => entry.mountPoint = id)
  /-- Under other ids there is nothing. -/
  empty : ∀ id, shell.mountPoints id = [] ↔ id ∉ shell.mountPointIds
  /-- The groups hold all entries, each of them once. -/
  whole : (shell.mountPointIds.flatMap shell.mountPoints).Perm
    (registry.mountPoints.map .ofEntry)
  /-- Those entries show whose own `if` block accepts the entity. -/
  visible : ∀ id entity capabilities, List.Forall₂ RenderedMountPoint.Renders
    (shell.visibleMountPoints id entity capabilities)
    (registry.mountPoints.filter fun entry => entry.mountPoint = id ∧
      ConditionBlock.Accepts entity capabilities (entry.config.bind (·.condition)))
  /-- Every path has one override, that of its last tab, at the place of its first. -/
  tabs : shell.tabs.members =
    (registry.entityTabs.map (·.path)).eraseDups.filterMap fun path =>
      ((registry.entityTabs.filter fun tab => tab.path = path).getLast?).map fun tab =>
        (path, tab.override)

theorem RenderedMountPoint.renders_ofEntry (entry : MountPointEntry) :
    (ofEntry entry).Renders entry :=
  ⟨rfl, rfl, rfl, rfl, rfl, rfl, fun _ _ => Predicate.evaluate_compile_iff_accepts⟩

theorem RenderedMountPoint.forall₂_renders (entries : List MountPointEntry) :
    List.Forall₂ Renders (entries.map ofEntry) entries := by
  rw [List.forall₂_map_left_iff, List.forall₂_same]
  exact fun entry _ => renders_ofEntry entry

theorem Shell.visibleMountPoints_ofRegistry (id : String) (entity : Entity)
    (capabilities : Option Capabilities) :
    (ofRegistry registry).visibleMountPoints id entity capabilities =
      (registry.mountPoints.filter fun entry => entry.mountPoint = id ∧
        ConditionBlock.Accepts entity capabilities (entry.config.bind (·.condition))).map
          .ofEntry := by
  rw [visibleMountPoints, mountPoints_ofRegistry, List.filter_map, List.filter_filter]
  refine congrArg (List.map _) (List.filter_congr fun entry _ => ?_)
  have shows := (RenderedMountPoint.renders_ofEntry entry).shows entity capabilities
  rw [Bool.eq_iff_iff, Bool.and_eq_true, decide_eq_true_iff, decide_eq_true_iff, and_comm]
  exact and_congr_right fun _ => shows

/-- **The shell arranges the registry and loses nothing of it.** Mount points are partitioned by
their ids, in order, each with the layout, the properties and the `if` block of its own
configuration, and of the tabs with one path the last one counts. -/
theorem Shell.arranges_ofRegistry : (ofRegistry registry).Arranges registry where
  ids := mountPointIds_ofRegistry registry
  distinct := nodup_mountPointIds _
  group id := by
    rw [mountPoints_ofRegistry]
    exact RenderedMountPoint.forall₂_renders _
  empty := mountPoints_eq_nil_iff registry
  whole := perm_flatMap_mountPoints registry
  visible id entity capabilities := by
    rw [visibleMountPoints_ofRegistry]
    exact RenderedMountPoint.forall₂_renders _
  tabs := by
    rw [Keyed.members_eq_filterMap, keys_tabs_ofRegistry]
    refine List.filterMap_congr fun path _ => ?_
    rw [get?_tabs_ofRegistry, Option.map_map]
    rfl

end PortalConfig
