import Mathlib.Logic.Function.Iterate
import PortalConfig.Proofs.Menu.Forest

/-!
# Placing the menu comes to an end

The parents of the nodes may form any graph. Three things are followed along it here, each one step
at a time: the walk along the ancestors of a node, which remembers those it has seen and stops
within one more step than there are nodes (`Menu.Walk.Sound.ends`); the climb along the parents
that nodes are placed under, which reaches a root in fewer steps than there are nodes
(`Menu.exists_root`); and the descent from the roots through a table of children, which needs room
for no more levels than there are nodes (`Menu.assemble?_childNames`). The last two have one
measure: of the finitely many places that can be reached from a place, a step leaves at least one
behind (`length_reachable_lt`).
-/

namespace PortalConfig

open Relation

universe u

variable {nodes : Keyed MenuNode}

/-! ## The walk, one ancestor at a time -/

/-- A walk along the ancestors of a node. -/
inductive Menu.Walk where
  /-- Under way: the ancestors it has seen, and the one it has come to. -/
  | along (seen : List String) (ancestor : Option String)
  /-- At its end: whether it came back to the node. -/
  | ended (back : Bool)
deriving DecidableEq

/-- One step of the walk from `name`. It ends where there is no further ancestor, at the node
itself, and at an ancestor that it has seen. -/
def Menu.Walk.step (nodes : Keyed MenuNode) (name : String) : Walk → Walk
  | along _ none => ended false
  | along seen (some ancestor) =>
    if ancestor = name then ended true
    else if ancestor ∈ seen then ended false
    else along (ancestor :: seen) (presentParent nodes ancestor)
  | ended back => ended back

/-- The walk before its first step. -/
def Menu.Walk.start (nodes : Keyed MenuNode) (name : String) : Walk :=
  along [] (presentParent nodes name)

theorem Menu.Walk.iterate_step_ended (name : String) (back : Bool) (steps : Nat) :
    (step nodes name)^[steps] (ended back) = ended back :=
  Function.iterate_fixed rfl steps

/-- What holds under way: the walk has seen nothing twice and not the node itself, it has seen and
come to ancestors only, and whatever parent the node and those seen have is seen or ahead. -/
structure Menu.Walk.Sound (nodes : Keyed MenuNode) (name : String) (seen : List String)
    (ahead : Option String) : Prop where
  distinct : seen.Nodup
  unmet : name ∉ seen
  ancestors : ∀ a, a ∈ seen ∨ ahead = some a → TransGen (ParentOf nodes) name a
  closed : ∀ a, a = name ∨ a ∈ seen → ∀ b, ParentOf nodes a b → b ∈ seen ∨ ahead = some b

namespace Menu.Walk.Sound

variable {name ancestor : String} {seen : List String} {ahead : Option String}

theorem start (nodes : Keyed MenuNode) (name : String) :
    Sound nodes name [] (presentParent nodes name) where
  distinct := List.nodup_nil
  unmet := List.not_mem_nil
  ancestors := by
    intro a met
    rcases met with mem | eq
    · cases mem
    · exact .single (presentParent_eq_some_iff.1 eq)
  closed := by
    intro a own b edge
    rcases own with rfl | mem
    · exact Or.inr (presentParent_eq_some_iff.2 edge)
    · cases mem

/-- A step on keeps what holds of the walk. -/
theorem onward (sound : Sound nodes name seen (some ancestor)) (other : ancestor ≠ name)
    (fresh : ancestor ∉ seen) :
    Sound nodes name (ancestor :: seen) (presentParent nodes ancestor) where
  distinct := List.nodup_cons.2 ⟨fresh, sound.distinct⟩
  unmet := by
    rw [List.mem_cons, not_or]
    exact ⟨Ne.symm other, sound.unmet⟩
  ancestors := by
    intro a met
    rcases met with mem | eq
    · rcases List.mem_cons.1 mem with rfl | earlier
      · exact sound.ancestors a (Or.inr rfl)
      · exact sound.ancestors a (Or.inl earlier)
    · exact (sound.ancestors ancestor (Or.inr rfl)).tail (presentParent_eq_some_iff.1 eq)
  closed := by
    intro a own b edge
    by_cases same : a = ancestor
    · subst same
      exact Or.inr (presentParent_eq_some_iff.2 edge)
    · have before : a = name ∨ a ∈ seen :=
        own.imp_right fun mem => (List.mem_cons.1 mem).resolve_left same
      rcases sound.closed a before b edge with earlier | eq
      · exact Or.inl (List.mem_cons_of_mem _ earlier)
      · exact Or.inl (Option.some.inj eq ▸ List.mem_cons_self)

/-- The walk sees no more than there is. -/
theorem length_le (sound : Sound nodes name seen ahead) : seen.length ≤ nodes.size := by
  have known : seen ⊆ nodes.keys := by
    intro a mem
    obtain ⟨_, -, edge⟩ := TransGen.tail'_iff.1 (sound.ancestors a (Or.inl mem))
    exact edge.2
  have few := (List.subperm_of_subset sound.distinct known).length_le
  rwa [Keyed.keys, Members.keys, List.length_map] at few

/-- Where nothing new is ahead, the walk has seen every ancestor, and the node is none of them. -/
theorem not_onCycle (sound : Sound nodes name seen ahead)
    (nothing : ∀ a, ahead = some a → a ∈ seen) : ¬ OnCycle nodes name := by
  have all : ∀ a, TransGen (ParentOf nodes) name a → a ∈ seen := by
    intro a path
    induction path with
    | single edge => exact (sound.closed _ (Or.inl rfl) _ edge).elim id (nothing _)
    | tail _ edge ih => exact (sound.closed _ (Or.inr ih) _ edge).elim id (nothing _)
  exact fun cycle => sound.unmet (all name cycle)

/-- Within one more step than there are nodes not yet seen the walk is at its end, and knows
whether the node lies on a cycle. -/
theorem ends (steps : Nat) (sound : Sound nodes name seen ahead)
    (enough : nodes.size + 1 ≤ steps + seen.length) :
    ∃ back, (step nodes name)^[steps] (along seen ahead) = ended back ∧
      (back = true ↔ OnCycle nodes name) := by
  induction steps generalizing seen ahead with
  | zero =>
      have few := sound.length_le
      omega
  | succ steps ih =>
      rw [Function.iterate_succ_apply]
      cases ahead with
      | none =>
          refine ⟨false, iterate_step_ended name false steps, ?_⟩
          have off := sound.not_onCycle (by simp)
          simp [off]
      | some ancestor =>
          -- back at the node, at an ancestor seen before, or at a fresh one
          by_cases same : ancestor = name
          · subst same
            have cycle : OnCycle nodes ancestor := sound.ancestors ancestor (Or.inr rfl)
            rw [step, if_pos rfl]
            exact ⟨true, iterate_step_ended ancestor true steps, by simp [cycle]⟩
          · by_cases met : ancestor ∈ seen
            · have off := sound.not_onCycle fun a eq => Option.some.inj eq ▸ met
              rw [step, if_neg same, if_pos met]
              exact ⟨false, iterate_step_ended name false steps, by simp [off]⟩
            · rw [step, if_neg same, if_neg met]
              refine ih (sound.onward same met) ?_
              rw [List.length_cons]
              omega

end Menu.Walk.Sound

/-- The walk from a node decides whether the node is placed under the parent it names. -/
theorem Menu.Walk.decides (nodes : Keyed MenuNode) (name : String) :
    ∃ back, (step nodes name)^[nodes.size + 1] (start nodes name) = ended back ∧
      effectiveParent nodes name = if back then none else presentParent nodes name := by
  obtain ⟨back, atEnd, cycle⟩ :=
    (Sound.start nodes name).ends (nodes.size + 1) (Nat.le_refl _)
  refine ⟨back, atEnd, ?_⟩
  unfold effectiveParent
  simp only [mem_ancestors_iff_onCycle, ← cycle]

/-! ## What is left to reach -/

section Reachable

variable {α : Type u} {r : α → α → Prop} {support : List α}

open Classical in
/-- The things of a list that can be reached from one of them. -/
noncomputable def reachable (r : α → α → Prop) (support : List α) (a : α) : List α :=
  support.filter fun b => TransGen r a b

theorem mem_reachable {a b : α} : b ∈ reachable r support a ↔ b ∈ support ∧ TransGen r a b := by
  classical
  rw [reachable, List.mem_filter, decide_eq_true_iff]

/-- Without cycles, a step leaves the thing that it leads to behind. -/
theorem length_reachable_lt (acyclic : ∀ a, ¬ TransGen r a a) {a b : α} (edge : r a b)
    (mem : b ∈ support) : (reachable r support b).length < (reachable r support a).length := by
  classical
  have part : reachable r support b =
      (reachable r support a).filter fun c => TransGen r b c := by
    rw [reachable, reachable, List.filter_filter]
    refine List.filter_congr fun c _ => ?_
    by_cases path : TransGen r b c
    · simp [path, TransGen.head edge path]
    · simp [path]
  rw [part, List.length_filter_lt_length_iff_exists]
  exact ⟨b, mem_reachable.2 ⟨mem, .single edge⟩, by simp [acyclic b]⟩

/-- Without cycles, nothing is reached from itself. -/
theorem length_reachable_lt_length (acyclic : ∀ a, ¬ TransGen r a a) {a : α} (mem : a ∈ support) :
    (reachable r support a).length < support.length := by
  classical
  rw [reachable, List.length_filter_lt_length_iff_exists]
  exact ⟨a, mem, by simp [acyclic a]⟩

end Reachable

/-- The places of the nodes themselves, without the top. -/
def Menu.places (nodes : Keyed MenuNode) : List (Option String) := nodes.keys.map some

theorem Menu.length_places (nodes : Keyed MenuNode) : (places nodes).length = nodes.size := by
  rw [places, List.length_map, Keyed.keys, Members.keys, List.length_map, Keyed.size]

theorem Menu.mem_places {name : String} : some name ∈ places nodes ↔ name ∈ nodes.keys := by
  rw [places, List.mem_map_of_injective (Option.some_injective _)]

/-- The nodes that a node stands below. -/
noncomputable def Menu.above (nodes : Keyed MenuNode) (name : String) : List (Option String) :=
  reachable (PlacedUnder nodes) (places nodes) (some name)

/-- The nodes that stand below a place. -/
noncomputable def Menu.beneath (nodes : Keyed MenuNode) (place : Option String) :
    List (Option String) :=
  reachable (Function.swap (PlacedUnder nodes)) (places nodes) place

theorem Menu.length_above_lt {name parent : String} (mem : name ∈ nodes.keys)
    (placed : effectiveParent nodes name = some parent) :
    (above nodes parent).length < (above nodes name).length := by
  have known : parent ∈ nodes.keys := (effectiveParent_eq_some_iff.1 placed).1.2
  exact length_reachable_lt PlacedUnder.acyclic ⟨name, mem, rfl, placed⟩ (mem_places.2 known)

theorem Menu.length_above_lt_size {name : String} (mem : name ∈ nodes.keys) :
    (above nodes name).length < nodes.size := by
  rw [← length_places]
  exact length_reachable_lt_length PlacedUnder.acyclic (mem_places.2 mem)

theorem Menu.length_beneath_lt {name : String} {place : Option String}
    (mem : name ∈ childNames nodes place) :
    (beneath nodes (some name)).length < (beneath nodes place).length :=
  length_reachable_lt (fun other cycle => PlacedUnder.acyclic other (transGen_swap.1 cycle))
    (mem_childNames.1 mem) (mem_places.2 (List.mem_of_mem_filter mem))

theorem Menu.length_beneath_le (nodes : Keyed MenuNode) (place : Option String) :
    (beneath nodes place).length ≤ nodes.size := by
  rw [← length_places]
  exact List.length_filter_le _ _

/-! ## Climbing to a root -/

/-- The node that is reached by following placement upwards. -/
def Menu.climb (nodes : Keyed MenuNode) (steps : Nat) (name : String) : Option String :=
  (fun place : Option String => place.bind (effectiveParent nodes))^[steps] (some name)

theorem Menu.climb_succ {name parent : String} (placed : effectiveParent nodes name = some parent)
    (steps : Nat) : climb nodes (steps + 1) name = climb nodes steps parent := by
  rw [climb, Function.iterate_succ_apply, Option.bind_some, placed, climb]

/-- From every node a root is reached in fewer steps than there are nodes: each step leaves one of
the nodes above behind. -/
theorem Menu.exists_root {name : String} (mem : name ∈ nodes.keys) :
    ∃ steps < nodes.size, ∃ root ∈ nodes.keys,
      climb nodes steps name = some root ∧ effectiveParent nodes root = none := by
  suffices within : ∀ bound name, name ∈ nodes.keys → (above nodes name).length = bound →
      ∃ steps ≤ bound, ∃ root ∈ nodes.keys,
        climb nodes steps name = some root ∧ effectiveParent nodes root = none by
    obtain ⟨steps, short, root⟩ := within _ name mem rfl
    exact ⟨steps, Nat.lt_of_le_of_lt short (length_above_lt_size mem), root⟩
  intro bound
  induction bound using Nat.strong_induction_on with
  | _ bound ih =>
      intro name mem measure
      cases placed : effectiveParent nodes name with
      | none => exact ⟨0, Nat.zero_le _, name, mem, rfl, placed⟩
      | some parent =>
          have known : parent ∈ nodes.keys := (effectiveParent_eq_some_iff.1 placed).1.2
          have fewer := length_above_lt mem placed
          rw [measure] at fewer
          obtain ⟨steps, short, root, rootMem, reached, top⟩ := ih _ fewer parent known rfl
          refine ⟨steps + 1, Nat.lt_of_le_of_lt short fewer, root, rootMem, ?_, top⟩
          rw [climb_succ placed, reached]

/-! ## The table of children -/

/-- The roots of the menu, and the children of every node that has some. -/
structure Menu.Families where
  roots : List String
  children : Keyed (List String)

/-- Sorts one more node in. -/
def Menu.Families.add (nodes : Keyed MenuNode) (families : Families) (name : String) : Families :=
  match effectiveParent nodes name with
  | some parent => { families with
      children := families.children.upsert parent fun present => present.getD [] ++ [name] }
  | none => { families with roots := families.roots ++ [name] }

/-- The nodes sorted in one after the other. -/
def Menu.Families.ofNodes (nodes : Keyed MenuNode) : Families :=
  nodes.keys.foldl (add nodes) ⟨[], .empty⟩

/-- The nodes sorted in under a place. -/
def Menu.Families.below (families : Families) : Option String → List String
  | none => families.roots
  | some parent => (families.children.get? parent).getD []

theorem Menu.Families.below_add (families : Families) (name : String) (place : Option String) :
    (families.add nodes name).below place =
      families.below place ++ if effectiveParent nodes name = place then [name] else [] := by
  unfold add
  split
  · next parent placed =>
      rw [placed]
      cases place with
      | none => simp [below]
      | some other =>
          by_cases same : parent = other
          · subst same
            simp [below, Keyed.get?_upsert_self]
          · simp [below, Keyed.get?_upsert_of_ne _ _ (Ne.symm same), same]
  · next top =>
      rw [top]
      cases place with
      | none => simp [below]
      | some other => simp [below]

theorem Menu.Families.below_foldl (families : Families) (names : List String)
    (place : Option String) :
    (names.foldl (add nodes) families).below place = families.below place ++
      names.filter fun name => effectiveParent nodes name == place := by
  induction names generalizing families with
  | nil => rw [List.foldl_nil, List.filter_nil, List.append_nil]
  | cons name rest ih =>
      rw [List.foldl_cons, ih, below_add, List.filter_cons, List.append_assoc]
      by_cases placed : effectiveParent nodes name = place
      · simp [placed]
      · simp [placed]

/-- The table has every node under the place where it belongs. -/
theorem Menu.Families.below_ofNodes (nodes : Keyed MenuNode) (place : Option String) :
    (ofNodes nodes).below place = childNames nodes place := by
  rw [ofNodes, below_foldl, childNames]
  cases place <;> rfl

/-! ## Descending through the table -/

/-- The trees of some names, made from the table of children; `none` when they have more than
`room` levels. -/
def Menu.assemble? (nodes : Keyed MenuNode) (families : Families) :
    (room : Nat) → List String → Option (List MenuItem)
  | _, [] => some []
  | 0, _ :: _ => none
  | room + 1, first :: rest =>
    let present := (first :: rest).filterMap fun name =>
      (nodes.get? name).map fun fields => (name, fields)
    (present.mapM fun entry =>
      (assemble? nodes families room (families.below (some entry.1))).map
        (MenuItem.node entry.1 entry.2)).map sortByRank

theorem Menu.sortByRank_nil : sortByRank [] = [] := List.mergeSort_nil

theorem Menu.assemble?_nil (families : Families) (room : Nat) :
    assemble? nodes families room [] = some [] := by
  cases room <;> rfl

theorem Menu.assemble?_succ (families : Families) (room : Nat) (names : List String) :
    assemble? nodes families (room + 1) names =
      ((names.filterMap fun name => (nodes.get? name).map fun fields => (name, fields)).mapM
        fun entry => (assemble? nodes families room (families.below (some entry.1))).map
          (MenuItem.node entry.1 entry.2)).map sortByRank := by
  cases names with
  | nil =>
      rw [assemble?_nil, List.filterMap_nil, List.mapM_nil]
      exact congrArg some sortByRank_nil.symm
  | cons first rest => rw [assemble?]

theorem mapM_eq_some_map {α : Type} {β : Type} {f : α → Option β} {g : α → β} {items : List α}
    (each : ∀ a ∈ items, f a = some (g a)) : items.mapM f = some (items.map g) := by
  induction items with
  | nil => rfl
  | cons first rest ih =>
      obtain ⟨here, later⟩ := List.forall_mem_cons.1 each
      rw [List.mapM_cons, here, ih later]
      rfl

/-- With room for the nodes below it, the names of a level are made into the trees under it. -/
theorem Menu.assemble?_childNames (room : Nat) {place : Option String}
    (enough : (beneath nodes place).length ≤ room) :
    assemble? nodes (Families.ofNodes nodes) room (childNames nodes place) =
      some (under nodes place) := by
  induction room generalizing place with
  | zero =>
      -- a name on this level would be a node beneath
      have empty : childNames nodes place = [] := by
        rw [List.eq_nil_iff_forall_not_mem]
        intro name mem
        have fewer := length_beneath_lt mem
        omega
      rw [under_eq, empty, assemble?_nil, List.map_nil, sortByRank_nil]
  | succ room ih =>
      have below : ∀ name ∈ childNames nodes place,
          assemble? nodes (Families.ofNodes nodes) room
            ((Families.ofNodes nodes).below (some name)) = some (under nodes (some name)) := by
        intro name mem
        have fewer := length_beneath_lt mem
        rw [Families.below_ofNodes]
        exact ih (by omega)
      have present : ((childNames nodes place).filterMap fun name =>
          (nodes.get? name).map fun fields => (name, fields)) =
          (childNames nodes place).map fun name => (name, (nodes.get? name).getD .blank) := by
        rw [List.filterMap_eq_map_iff_forall_eq_some]
        intro name mem
        obtain ⟨fields, found⟩ := (Keyed.mem_keys_iff nodes name).1 (List.mem_of_mem_filter mem)
        rw [found]
        rfl
      rw [assemble?_succ, present, List.mapM_map, mapM_eq_some_map (g := tree nodes), under_eq]
      · rfl
      · intro name mem
        rw [Function.comp_apply, below name mem]
        rfl

/-! ## Placing the menu -/

/-- The walk that decides where a node is placed meets at most one ancestor more than there are
fresh names. -/
theorem Menu.length_ancestors_le (parent : String → Option String) (fresh : List String)
    (first : Option String) : (ancestors parent fresh first).length ≤ fresh.length + 1 := by
  fun_induction ancestors parent fresh first with
  | case1 => exact Nat.zero_le _
  | case2 fresh ancestor mem ih =>
      rw [List.length_erase_of_mem mem] at ih
      have some_left := List.length_pos_of_mem mem
      rw [List.length_cons]
      omega
  | case3 => exact Nat.le_add_left 1 _

/-- **Placing the menu ends on every graph of parents.** The walk along the ancestors of a node is
at its end within one more step than there are nodes, and decides where the node is placed. From
every node, following placement upwards reaches a root in fewer steps than there are nodes. With
room for as many levels as there are nodes, or any more, descending through the table of children
makes the whole menu. -/
theorem Menu.placement_ends (nodes : Keyed MenuNode) :
    (∀ name,
      (ancestors (presentParent nodes) nodes.keys (presentParent nodes name)).length ≤
          nodes.size + 1 ∧
        ∃ back, (Walk.step nodes name)^[nodes.size + 1] (.start nodes name) = .ended back ∧
          effectiveParent nodes name = if back then none else presentParent nodes name) ∧
      (∀ name ∈ nodes.keys, ∃ steps < nodes.size, ∃ root ∈ nodes.keys,
        climb nodes steps name = some root ∧ effectiveParent nodes root = none) ∧
      ∀ room, nodes.size ≤ room →
        assemble? nodes (.ofNodes nodes) room (Families.ofNodes nodes).roots =
          some (forest nodes nodes.keys none) := by
  refine ⟨fun name => ⟨?_, Walk.decides nodes name⟩, fun name mem => exists_root mem,
    fun room enough => ?_⟩
  · have bound := length_ancestors_le (presentParent nodes) nodes.keys (presentParent nodes name)
    rwa [← length_places nodes, places, List.length_map]
  · have roots : (Families.ofNodes nodes).roots = childNames nodes none :=
      Families.below_ofNodes nodes none
    rw [roots, assemble?_childNames room (Nat.le_trans (length_beneath_le nodes none) enough)]
    rfl

/-- A cycle of two nodes, and two more on a chain that runs into it. -/
def Menu.tangledNodes : Keyed MenuNode :=
  .ofList [("w", { MenuNode.blank with parent := some "z" }),
    ("x", { MenuNode.blank with parent := some "y" }),
    ("y", { MenuNode.blank with parent := some "x" }),
    ("z", { MenuNode.blank with parent := some "x" })]

theorem Menu.placement_ends_tangledNodes :
    "w" ∈ tangledNodes.keys ∧ tangledNodes.size = 4 ∧
      (∃ steps < 4, ∃ root ∈ tangledNodes.keys,
        climb tangledNodes steps "w" = some root ∧ effectiveParent tangledNodes root = none) ∧
      climb tangledNodes 2 "w" = some "x" ∧ effectiveParent tangledNodes "x" = none ∧
      assemble? tangledNodes (.ofNodes tangledNodes) 4 ["x", "y"] =
        some (forest tangledNodes tangledNodes.keys none) ∧
      (assemble? tangledNodes (.ofNodes tangledNodes) 2 ["x", "y"]).isNone := by
  have mem : "w" ∈ tangledNodes.keys := by decide +kernel
  have four : tangledNodes.size = 4 := by decide +kernel
  obtain ⟨-, up, down⟩ := placement_ends tangledNodes
  refine ⟨mem, four, ?_, by decide +kernel, by decide +kernel, ?_, by decide +kernel⟩
  · have reached := up "w" mem
    rwa [four] at reached
  · have roots : (Families.ofNodes tangledNodes).roots = ["x", "y"] := by decide +kernel
    rw [← roots]
    exact down 4 (Nat.le_of_eq four)

end PortalConfig
