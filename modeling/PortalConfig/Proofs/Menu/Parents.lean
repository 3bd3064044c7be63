import Mathlib.Logic.Relation
import Mathlib.Order.WellFoundedSet
import PortalConfig.Plugin.Menu
import PortalConfig.Proofs.Keyed

/-!
# Parents of menu nodes

Every node names at most one parent, so the parents form a graph in which each walk is determined
by its start: it ends, or it runs into a cycle. `Menu.effectiveParent` walks the ancestors of a
node and cuts exactly the edges that lie on a cycle (`Menu.effectiveParent_eq_some_iff`). What is
left has no cycle (`Menu.PlacedUnder.acyclic`), so descending it ends
(`Menu.wellFounded_placedUnder`) and climbing it ends at a root
(`Menu.placedUnder_none_of_mem`).
-/

namespace PortalConfig

open Relation

universe u

variable {nodes : Keyed MenuNode}

/-! ## The parent relation -/

/-- `child` names `parent` as its parent, and there is a node with that name. -/
def Menu.ParentOf (nodes : Keyed MenuNode) (child parent : String) : Prop :=
  (∃ node, nodes.get? child = some node ∧ node.parent = some parent) ∧ parent ∈ nodes.keys

/-- Following parents from the node leads back to it. -/
def Menu.OnCycle (nodes : Keyed MenuNode) (name : String) : Prop :=
  TransGen (Menu.ParentOf nodes) name name

theorem Menu.presentParent_eq_some_iff {child parent : String} :
    presentParent nodes child = some parent ↔ ParentOf nodes child parent := by
  unfold presentParent ParentOf
  simp only [Option.bind_eq_some_iff, Option.filter_eq_some_iff, Keyed.contains_iff]
  constructor
  · intro holds
    rcases holds with ⟨node, found, named, present⟩
    exact ⟨⟨node, found, named⟩, present⟩
  · intro holds
    rcases holds with ⟨⟨node, found, named⟩, present⟩
    exact ⟨node, found, named, present⟩

theorem Menu.ParentOf.unique {child parent other : String}
    (first : ParentOf nodes child parent) (second : ParentOf nodes child other) :
    parent = other :=
  Option.some.inj ((presentParent_eq_some_iff.2 first).symm.trans
    (presentParent_eq_some_iff.2 second))

theorem Menu.ParentOf.mem_keys {child parent : String} (edge : ParentOf nodes child parent) :
    child ∈ nodes.keys := by
  obtain ⟨⟨node, found, -⟩, -⟩ := edge
  exact (Keyed.mem_keys_iff nodes child).2 ⟨node, found⟩

/-! ## The walk along the ancestors -/

variable {parent : String → Option String}

/-- The walk meets nothing but ancestors. -/
theorem Menu.reflTransGen_of_mem_ancestors {fresh : List String} {start : Option String}
    {name : String} (mem : name ∈ ancestors parent fresh start) :
    ∃ first, start = some first ∧ ReflTransGen (fun a b => parent a = some b) first name := by
  fun_induction ancestors parent fresh start with
  | case1 => cases mem
  | case2 fresh ancestor _ ih =>
      rcases List.mem_cons.1 mem with rfl | later
      · exact ⟨_, rfl, .refl⟩
      · obtain ⟨next, step, rest⟩ := ih later
        exact ⟨ancestor, rfl, .head step rest⟩
  | case3 fresh ancestor _ =>
      obtain rfl := List.mem_singleton.1 mem
      exact ⟨name, rfl, .refl⟩

/-- The walk misses no ancestor. Between two steps the names that are not fresh any more are
those met before, and of them only the last one has its parent, `first`, still ahead. -/
theorem Menu.mem_ancestors_of_reflTransGen {fresh : List String} {first name : String}
    (distinct : fresh.Nodup)
    (met : ∀ a, a ∉ fresh → ∀ b, parent a = some b → b = first ∨ b ∉ fresh)
    (reach : ReflTransGen (fun a b => parent a = some b) first name) :
    name ∈ ancestors parent fresh (some first) ∨ name ∉ fresh := by
  generalize start : some first = position
  fun_induction ancestors parent fresh position generalizing first with
  | case1 => cases start
  | case2 fresh ancestor mem ih =>
      obtain rfl := Option.some.inj start
      rcases reach.cases_head with rfl | ⟨next, step, rest⟩
      · exact Or.inl List.mem_cons_self
      · have metNext : ∀ a, a ∉ fresh.erase first → ∀ b, parent a = some b →
            b = next ∨ b ∉ fresh.erase first := by
          intro a old b named
          by_cases same : a = first
          · subst same
            exact Or.inl (Option.some.inj (named.symm.trans step))
          · have older : a ∉ fresh := fun new => old ((List.mem_erase_of_ne same).2 new)
            rcases met a older b named with rfl | gone
            · exact Or.inr distinct.not_mem_erase
            · exact Or.inr fun still => gone (List.mem_of_mem_erase still)
        rcases ih (distinct.erase first) metNext rest step.symm with found | gone
        · exact Or.inl (List.mem_cons_of_mem _ found)
        · by_cases same : name = first
          · exact Or.inl (same ▸ List.mem_cons_self)
          · exact Or.inr fun still => gone ((List.mem_erase_of_ne same).2 still)
  | case3 fresh ancestor notMem =>
      obtain rfl := Option.some.inj start
      refine Or.inr ?_
      clear start
      induction reach with
      | refl => exact notMem
      | tail _ step ih =>
          rcases met _ ih _ step with rfl | gone
          · exact notMem
          · exact gone

/-- A node is among its own ancestors exactly when it lies on a cycle. -/
theorem Menu.mem_ancestors_iff_onCycle {name : String} :
    name ∈ ancestors (presentParent nodes) nodes.keys (presentParent nodes name) ↔
      OnCycle nodes name := by
  have same : (fun a b => presentParent nodes a = some b) = ParentOf nodes := by
    funext a b
    exact propext presentParent_eq_some_iff
  constructor
  · intro mem
    obtain ⟨first, step, rest⟩ := reflTransGen_of_mem_ancestors mem
    rw [same] at rest
    exact TransGen.head' (presentParent_eq_some_iff.1 step) rest
  · intro cycle
    obtain ⟨first, step, rest⟩ := TransGen.head'_iff.1 cycle
    have outside : ∀ a, a ∉ nodes.keys → ∀ b, presentParent nodes a = some b →
        b = first ∨ b ∉ nodes.keys :=
      fun a absent b edge => (absent (presentParent_eq_some_iff.1 edge).mem_keys).elim
    rw [presentParent_eq_some_iff.2 step]
    rw [← same] at rest
    rcases mem_ancestors_of_reflTransGen nodes.nodup outside rest with found | absent
    · exact found
    · exact (absent step.mem_keys).elim

/-! ## The edges that are left -/

/-- A node is placed under the parent it names unless it lies on a cycle. -/
theorem Menu.effectiveParent_eq_some_iff {child parent : String} :
    effectiveParent nodes child = some parent ↔
      ParentOf nodes child parent ∧ ¬ OnCycle nodes child := by
  unfold effectiveParent
  by_cases cycle : OnCycle nodes child
  · simp only [if_pos (mem_ancestors_iff_onCycle.2 cycle), reduceCtorEq, cycle, not_true,
      and_false]
  · simp only [if_neg (mt mem_ancestors_iff_onCycle.1 cycle), presentParent_eq_some_iff, cycle,
      not_false_eq_true, and_true]

/-- The places of the menu: `none` is the top, `some name` the place below a node. A node is
placed under the top when it is a root. -/
def Menu.PlacedUnder (nodes : Keyed MenuNode) (place above : Option String) : Prop :=
  ∃ name ∈ nodes.keys, place = some name ∧ effectiveParent nodes name = above

theorem Menu.PlacedUnder.unique {place above other : Option String}
    (first : PlacedUnder nodes place above) (second : PlacedUnder nodes place other) :
    above = other := by
  obtain ⟨name, -, rfl, rfl⟩ := first
  obtain ⟨same, -, eq, rfl⟩ := second
  rw [Option.some.inj eq]

theorem Menu.PlacedUnder.parentOf {child parent : String}
    (edge : PlacedUnder nodes (some child) (some parent)) : ParentOf nodes child parent := by
  obtain ⟨name, -, eq, placed⟩ := edge
  obtain rfl := Option.some.inj eq
  exact (effectiveParent_eq_some_iff.1 placed).1

/-- Nothing lies above the top. -/
theorem Menu.PlacedUnder.not_none {above : Option String} :
    ¬ PlacedUnder nodes none above := by
  intro holds
  rcases holds with ⟨name, -, eq, -⟩
  cases eq

theorem Menu.PlacedUnder.transGen_parentOf {child : String} {above : Option String}
    (path : TransGen (PlacedUnder nodes) (some child) above) :
    ∀ parent, above = some parent → TransGen (ParentOf nodes) child parent := by
  induction path with
  | single edge =>
      intro parent eq
      subst eq
      exact .single edge.parentOf
  | @tail middle _ _ edge ih =>
      intro parent eq
      subst eq
      cases middle with
      | none => exact (PlacedUnder.not_none edge).elim
      | some name => exact .tail (ih name rfl) edge.parentOf

/-- No place lies above itself: a cycle of places would be a cycle of parents, and a node on one
is not placed under its parent. -/
theorem Menu.PlacedUnder.acyclic (place : Option String) :
    ¬ TransGen (PlacedUnder nodes) place place := by
  intro cycle
  obtain ⟨above, edge, -⟩ := TransGen.head'_iff.1 cycle
  obtain ⟨name, -, rfl, placed⟩ := edge
  have onCycle : OnCycle nodes name := PlacedUnder.transGen_parentOf cycle name rfl
  obtain ⟨next, nextEdge, rest⟩ := TransGen.head'_iff.1 cycle
  cases next with
  | none =>
      rcases rest.cases_head with eq | ⟨_, step, _⟩
      · cases eq
      · exact PlacedUnder.not_none step
  | some parent =>
      obtain ⟨same, -, eq, kept⟩ := nextEdge
      obtain rfl := Option.some.inj eq
      exact (effectiveParent_eq_some_iff.1 kept).2 onCycle

/-! ## Descending and climbing end -/

/-- A relation without cycles between finitely many things is well-founded. -/
theorem wellFounded_of_acyclic {α : Type u} {r : α → α → Prop} {support : List α}
    (acyclic : ∀ a, ¬ TransGen r a a) (bounded : ∀ a b, r a b → a ∈ support ∧ b ∈ support) :
    WellFounded r := by
  have irrefl : Std.Irrefl (TransGen r) := ⟨acyclic⟩
  have strict : IsStrictOrder α (TransGen r) := { irrefl with }
  have onSupport := support.finite_toSet.wellFoundedOn (r := TransGen r)
  rw [Set.wellFoundedOn_iff] at onSupport
  exact Subrelation.wf (fun {a b} edge => ⟨.single edge, bounded a b edge⟩) onSupport

theorem Menu.PlacedUnder.mem_places {place above : Option String}
    (edge : PlacedUnder nodes place above) :
    place ∈ none :: nodes.keys.map some ∧ above ∈ none :: nodes.keys.map some := by
  obtain ⟨name, mem, rfl, placed⟩ := edge
  refine ⟨List.mem_cons_of_mem _ (List.mem_map_of_mem mem), ?_⟩
  cases above with
  | none => exact List.mem_cons_self
  | some parent =>
      have named := (effectiveParent_eq_some_iff.1 placed).1
      exact List.mem_cons_of_mem _ (List.mem_map_of_mem named.2)

/-- Descending from a place ends. -/
theorem Menu.wellFounded_placedUnder (nodes : Keyed MenuNode) :
    WellFounded (PlacedUnder nodes) :=
  wellFounded_of_acyclic PlacedUnder.acyclic fun _ _ edge => edge.mem_places

/-- Climbing from a place ends. -/
theorem Menu.wellFounded_swap_placedUnder (nodes : Keyed MenuNode) :
    WellFounded (Function.swap (PlacedUnder nodes)) :=
  wellFounded_of_acyclic
    (fun place cycle => PlacedUnder.acyclic place (transGen_swap.1 cycle))
    fun _ _ edge => edge.mem_places.symm

/-- Every node stands below the top. -/
theorem Menu.placedUnder_none_of_mem {name : String} (mem : name ∈ nodes.keys) :
    TransGen (PlacedUnder nodes) (some name) none := by
  generalize eq : some name = place
  induction place using (wellFounded_swap_placedUnder nodes).induction generalizing name with
  | _ place ih =>
      subst eq
      have edge : PlacedUnder nodes (some name) (effectiveParent nodes name) :=
        ⟨name, mem, rfl, rfl⟩
      cases placed : effectiveParent nodes name with
      | none => exact .single (placed ▸ edge)
      | some parent =>
          have present : parent ∈ nodes.keys := (effectiveParent_eq_some_iff.1 placed).1.2
          rw [placed] at edge
          exact .head edge (ih (some parent) edge present rfl)

end PortalConfig
