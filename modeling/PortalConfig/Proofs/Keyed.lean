import Mathlib.Data.List.Induction
import Mathlib.Data.List.Nodup
import PortalConfig.Keyed

/-!
# The theory of keyed tables

A table is read through `keys` and `get?`. Any sequence of `upsert`s is characterised here by
these two views: which keys are there afterwards (`Keyed.mem_keys_foldl_upsert`) and in which order
(`Keyed.keys_foldl_upsert`), what a key has (`Keyed.get?_foldl_upsert`, `Keyed.get?_ofList`), and
that a list of pairs without a repeated key is its own table (`Keyed.members_ofList`). The two views
give the members back (`Keyed.members_eq_filterMap`). Revising every value of a plain list of
members, or deleting it, is seen by `get?` key by key (`Members.get?_revise`).
-/

namespace PortalConfig

universe u v

variable {α : Type u} {β : Type v}

/-! ## One step -/

theorem Keyed.get?_upsert_self (table : Keyed α) (key : String) (f : Option α → α) :
    (table.upsert key f).get? key = some (f (table.get? key)) :=
  Members.get?_upsert_self table.members key f

theorem Keyed.get?_upsert_of_ne (table : Keyed α) {key other : String} (f : Option α → α)
    (ne : other ≠ key) : (table.upsert key f).get? other = table.get? other :=
  Members.get?_upsert_of_ne table.members f ne

theorem Keyed.mem_keys_iff (table : Keyed α) (key : String) :
    key ∈ table.keys ↔ ∃ value, table.get? key = some value := by
  rw [← Option.isSome_iff_exists, ← not_iff_not, Option.not_isSome_iff_eq_none]
  exact (Members.get?_eq_none_iff table.members key).symm

theorem Keyed.mem_keys_congr {table other : Keyed α}
    (same : ∀ key, table.get? key = other.get? key) (key : String) :
    key ∈ table.keys ↔ key ∈ other.keys := by
  rw [mem_keys_iff, mem_keys_iff, same]

theorem Keyed.contains_iff (table : Keyed α) (key : String) :
    table.contains key = true ↔ key ∈ table.keys := by
  rw [Keyed.mem_keys_iff, ← Option.isSome_iff_exists]
  rfl

theorem Keyed.mem_keys_upsert (table : Keyed α) (key other : String) (f : Option α → α) :
    other ∈ (table.upsert key f).keys ↔ other ∈ table.keys ∨ other = key := by
  change other ∈ (table.members.upsert key f).keys ↔ other ∈ table.members.keys ∨ other = key
  rw [Members.keys_upsert]
  split
  · next present =>
    constructor
    · exact Or.inl
    · intro holds
      rcases holds with mem | rfl
      · exact mem
      · exact present
  · rw [List.mem_append, List.mem_singleton]

theorem Members.mem_of_get?_eq_some {members : Members α} {key : String} {value : α}
    (found : members.get? key = some value) : (key, value) ∈ members := by
  induction members with
  | nil => cases found
  | cons head rest ih =>
      obtain ⟨own, present⟩ := head
      rw [get?] at found
      split at found
      · next same =>
          rw [← same, ← Option.some.inj found]
          exact List.mem_cons_self
      · exact List.mem_cons_of_mem _ (ih found)

/-- Where no key is repeated, every member is found under its key. -/
theorem Members.get?_of_mem {members : Members α} (distinct : members.keys.Nodup) {key : String}
    {value : α} (mem : (key, value) ∈ members) : members.get? key = some value := by
  induction members with
  | nil => cases mem
  | cons head rest ih =>
      obtain ⟨own, present⟩ := head
      obtain ⟨absent, distinctRest⟩ := List.nodup_cons.1 distinct
      rcases List.mem_cons.1 mem with same | later
      · cases same
        exact if_pos rfl
      · have other : own ≠ key := by
          rintro rfl
          exact absent (List.mem_map.2 ⟨_, later, rfl⟩)
        rw [get?, if_neg other]
        exact ih distinctRest later

theorem Members.mem_iff_get?_eq_some {members : Members α} (distinct : members.keys.Nodup)
    {key : String} {value : α} : (key, value) ∈ members ↔ members.get? key = some value :=
  ⟨get?_of_mem distinct, mem_of_get?_eq_some⟩

/-- Where no key is repeated, the order of the members does not matter to what is found. -/
theorem Members.get?_of_perm {members others : Members α} (perm : members.Perm others)
    (distinct : members.keys.Nodup) (key : String) : members.get? key = others.get? key := by
  have distinctOthers : others.keys.Nodup := (perm.map Prod.fst).nodup_iff.1 distinct
  refine Option.ext fun value => ?_
  rw [← mem_iff_get?_eq_some distinct, ← mem_iff_get?_eq_some distinctOthers, perm.mem_iff]

/-- Members are determined by their keys and by what is found under them. -/
theorem Members.ext_of_nodup {members others : Members α} (distinct : members.keys.Nodup)
    (sameKeys : members.keys = others.keys)
    (same : ∀ key, members.get? key = others.get? key) : members = others := by
  induction members generalizing others with
  | nil => exact (List.map_eq_nil_iff.1 sameKeys.symm).symm
  | cons head rest ih =>
      cases others with
      | nil => cases sameKeys
      | cons other more =>
          obtain ⟨own, value⟩ := head
          obtain ⟨otherKey, otherValue⟩ := other
          obtain rfl : own = otherKey := (List.cons.inj sameKeys).1
          have keysRest : Members.keys rest = Members.keys more := (List.cons.inj sameKeys).2
          obtain ⟨absent, distinctRest⟩ := List.nodup_cons.1 distinct
          have heads := same own
          rw [get?, get?, if_pos rfl, if_pos rfl] at heads
          obtain rfl := Option.some.inj heads
          refine congrArg _ (ih distinctRest keysRest fun key => ?_)
          by_cases isHead : own = key
          · subst isHead
            have gone : own ∉ Members.keys more := keysRest ▸ absent
            rw [(get?_eq_none_iff rest own).2 absent, (get?_eq_none_iff more own).2 gone]
          · have tails := same key
            rw [get?, get?, if_neg isHead, if_neg isHead] at tails
            exact tails

/-! ## First occurrences -/

section FirstOccurrences

variable [DecidableEq α]

theorem eraseDups_of_nodup {items : List α} (nodup : items.Nodup) : items.eraseDups = items := by
  induction items with
  | nil => rfl
  | cons item rest ih =>
      obtain ⟨absent, nodupRest⟩ := List.nodup_cons.1 nodup
      have others : rest.filter (fun other => !other == item) = rest := by
        refine List.filter_eq_self.2 fun other mem => ?_
        have ne : other ≠ item := fun eq => absent (eq ▸ mem)
        simpa using ne
      rw [List.eraseDups_cons, others, ih nodupRest]

/-- What is there already stays in front; the rest follows with its own first occurrences. -/
theorem eraseDups_append_of_nodup {items : List α} (nodup : items.Nodup) (more : List α) :
    (items ++ more).eraseDups = items ++ (more.filter (· ∉ items)).eraseDups := by
  rw [List.eraseDups_append, eraseDups_of_nodup nodup]
  congr 2
  refine List.filter_congr fun item _ => ?_
  simp

theorem nodup_append_filter {items more : List α} (nodup : items.Nodup)
    (nodupMore : more.Nodup) : (items ++ more.filter (· ∉ items)).Nodup := by
  refine nodup.append (nodupMore.filter _) fun item mem memMore => ?_
  exact of_decide_eq_true (List.mem_filter.1 memMore).2 mem

/-- Adding the new ones among `more` first does not change the first occurrences. -/
theorem eraseDups_append_filter_append {items more : List α} (nodup : items.Nodup)
    (nodupMore : more.Nodup) (rest : List α) :
    (items ++ more.filter (· ∉ items) ++ rest).eraseDups =
      (items ++ (more ++ rest)).eraseDups := by
  have last : rest.filter (· ∉ items ++ more.filter (· ∉ items)) =
      (rest.filter (· ∉ items)).filter (· ∉ more.filter (· ∉ items)) := by
    rw [List.filter_filter]
    refine List.filter_congr fun item _ => ?_
    simp only [List.mem_append, not_or, Bool.decide_and, Bool.and_comm]
  calc (items ++ more.filter (· ∉ items) ++ rest).eraseDups
      = items ++ more.filter (· ∉ items) ++
          (rest.filter (· ∉ items ++ more.filter (· ∉ items))).eraseDups :=
        eraseDups_append_of_nodup (nodup_append_filter nodup nodupMore) rest
    _ = items ++ (more.filter (· ∉ items) ++
          ((rest.filter (· ∉ items)).filter (· ∉ more.filter (· ∉ items))).eraseDups) := by
        rw [last, List.append_assoc]
    _ = items ++ (more.filter (· ∉ items) ++ rest.filter (· ∉ items)).eraseDups := by
        rw [eraseDups_append_of_nodup (nodupMore.filter _)]
    _ = items ++ ((more ++ rest).filter (· ∉ items)).eraseDups := by rw [List.filter_append]
    _ = (items ++ (more ++ rest)).eraseDups := (eraseDups_append_of_nodup nodup _).symm

/-- Distinct names split a list into the parts of each. -/
theorem flatMap_filter_perm (name : β → α) {names : List α} (nodup : names.Nodup)
    (items : List β) :
    (names.flatMap fun key => items.filter fun item => name item = key).Perm
      (items.filter fun item => name item ∈ names) := by
  induction names with
  | nil => simp
  | cons key rest ih =>
      obtain ⟨absent, nodupRest⟩ := List.nodup_cons.1 nodup
      -- The part of the first name and what the others leave make up the whole.
      have own : (items.filter fun item => name item ∈ key :: rest).filter
          (fun item => name item = key) = items.filter fun item => name item = key := by
        rw [List.filter_filter]
        refine List.filter_congr fun item _ => ?_
        by_cases same : name item = key <;> simp [same]
      have others : (items.filter fun item => name item ∈ key :: rest).filter
          (fun item => !decide (name item = key)) = items.filter fun item => name item ∈ rest := by
        rw [List.filter_filter]
        refine List.filter_congr fun item _ => ?_
        by_cases same : name item = key <;> simp [same, absent]
      have split := List.filter_append_perm (fun item => decide (name item = key))
        (items.filter fun item => name item ∈ key :: rest)
      rw [own, others] at split
      rw [List.flatMap_cons]
      exact ((ih nodupRest).append_left _).trans split

end FirstOccurrences

/-! ## Runs of steps -/

/-- A run of updates adds the keys it names and loses none. -/
theorem Keyed.mem_keys_foldl_upsert (name : β → String) (f : β → Option α → α)
    (entries : List β) (table : Keyed α) (key : String) :
    key ∈ (entries.foldl (fun acc entry => acc.upsert (name entry) (f entry)) table).keys ↔
      key ∈ table.keys ∨ key ∈ entries.map name := by
  induction entries generalizing table with
  | nil => simp only [List.foldl_nil, List.map_nil, List.not_mem_nil, or_false]
  | cons entry rest ih =>
      rw [List.foldl_cons, ih, Keyed.mem_keys_upsert, List.map_cons, List.mem_cons, or_assoc]

theorem Keyed.mem_keys_ofList (pairs : List (String × α)) (key : String) :
    key ∈ (Keyed.ofList pairs).keys ↔ key ∈ pairs.map Prod.fst := by
  refine (Keyed.mem_keys_foldl_upsert Prod.fst (fun pair _ => pair.2) pairs .empty key).trans ?_
  simp only [Keyed.keys, Keyed.empty, Members.keys, List.map_nil, List.not_mem_nil, false_or]

/-- A run of updates of distinct keys updates a key once, or not at all. -/
theorem Keyed.get?_foldl_upsert (f : β → Option α → α) {entries : Members β}
    (distinct : entries.keys.Nodup) (table : Keyed α) (key : String) :
    (entries.foldl (fun acc entry => acc.upsert entry.1 (f entry.2)) table).get? key =
      ((entries.get? key).map fun value => f value (table.get? key)).or (table.get? key) := by
  induction entries generalizing table with
  | nil => rfl
  | cons entry rest ih =>
      obtain ⟨own, value⟩ := entry
      obtain ⟨absent, distinctRest⟩ := List.nodup_cons.1 distinct
      rw [List.foldl_cons, ih distinctRest, Members.get?]
      by_cases same : own = key
      · subst same
        have missing : Members.get? rest own = none := (Members.get?_eq_none_iff rest own).2 absent
        rw [missing, Keyed.get?_upsert_self, if_pos rfl]
        rfl
      · rw [Keyed.get?_upsert_of_ne table _ (Ne.symm same), if_neg same]

/-- A run of updates keeps the keys that are there and appends the new ones in the order in which
they first come up. -/
theorem Keyed.keys_foldl_upsert (name : β → String) (f : β → Option α → α) (entries : List β)
    (table : Keyed α) :
    (entries.foldl (fun acc entry => acc.upsert (name entry) (f entry)) table).keys =
      (table.keys ++ entries.map name).eraseDups := by
  induction entries generalizing table with
  | nil =>
      rw [List.foldl_nil, List.map_nil, List.append_nil]
      exact (eraseDups_of_nodup table.nodup).symm
  | cons entry rest ih =>
      have step : (table.upsert (name entry) (f entry)).keys =
          if name entry ∈ table.keys then table.keys else table.keys ++ [name entry] :=
        Members.keys_upsert table.members (name entry) (f entry)
      rw [List.foldl_cons, ih, step, List.map_cons]
      split
      · next present =>
        have distinct : table.keys.Nodup := table.nodup
        rw [eraseDups_append_of_nodup distinct, eraseDups_append_of_nodup distinct,
          List.filter_cons_of_neg (by simpa using present)]
      · rw [List.append_assoc, List.singleton_append]

theorem Keyed.keys_ofList (pairs : List (String × α)) :
    (Keyed.ofList pairs).keys = (Members.keys pairs).eraseDups :=
  Keyed.keys_foldl_upsert Prod.fst (fun pair _ => pair.2) pairs .empty

/-- A table has the last value that its list gives for a key. -/
theorem Keyed.get?_ofList (pairs : List (String × α)) (key : String) :
    (Keyed.ofList pairs).get? key =
      (pairs.filterMap fun pair => if pair.1 = key then some pair.2 else none).getLast? := by
  induction pairs using List.reverseRecOn with
  | nil => rfl
  | append_singleton pairs pair ih =>
      have step : Keyed.ofList (pairs ++ [pair]) = (Keyed.ofList pairs).insert pair.1 pair.2 :=
        List.foldl_concat ..
      rw [step, List.filterMap_append, List.filterMap_cons, List.filterMap_nil,
        List.getLast?_append, ← ih]
      by_cases same : pair.1 = key
      · subst same
        rw [if_pos rfl]
        exact Keyed.get?_upsert_self ..
      · rw [if_neg same]
        exact Keyed.get?_upsert_of_ne _ _ (Ne.symm same)

/-- Where no key is repeated, a list gives the one value of a key. -/
theorem Members.filterMap_eq_of_nodup {members : Members α} (distinct : members.keys.Nodup)
    (key : String) (f : α → Option β) :
    members.filterMap (fun member => if member.1 = key then f member.2 else none) =
      ((members.get? key).bind f).toList := by
  induction members with
  | nil => rfl
  | cons head rest ih =>
      obtain ⟨own, value⟩ := head
      obtain ⟨absent, distinctRest⟩ := List.nodup_cons.1 distinct
      rw [List.filterMap_cons, ih distinctRest, get?]
      dsimp only
      by_cases same : own = key
      · subst same
        have missing : get? rest own = none := (get?_eq_none_iff rest own).2 absent
        rw [if_pos rfl, if_pos rfl, missing, Option.bind_none, Option.bind_some]
        cases f value <;> rfl
      · rw [if_neg same, if_neg same]

/-- A table lists, key by key, what it has. -/
theorem Keyed.members_eq_filterMap (table : Keyed α) :
    table.members =
      table.keys.filterMap fun key => (table.get? key).map fun value => (key, value) := by
  have found (member : String × α) (mem : member ∈ table.members) :
      (table.get? member.1).map (fun value => (member.1, value)) = some member :=
    congrArg (Option.map _) (Members.get?_of_mem table.nodup mem)
  rw [keys, Members.keys, List.filterMap_map]
  refine (List.filterMap_some.symm).trans ?_
  exact List.filterMap_congr fun member mem => (found member mem).symm

/-- Setting an absent key appends it. -/
theorem Members.upsert_of_notMem {members : Members α} {key : String} (f : Option α → α)
    (absent : key ∉ members.keys) : members.upsert key f = members ++ [(key, f none)] := by
  induction members with
  | nil => rfl
  | cons head rest ih =>
      obtain ⟨own, present⟩ := head
      simp only [Members.keys, List.map_cons, List.mem_cons, not_or] at absent
      rw [Members.upsert, if_neg (Ne.symm absent.1)]
      exact congrArg ((own, present) :: ·) (ih absent.2)

theorem Members.insert_of_notMem {members : Members α} {key : String} (value : α)
    (absent : key ∉ members.keys) : members.insert key value = members ++ [(key, value)] :=
  upsert_of_notMem _ absent

theorem Keyed.members_insertAll (pairs : List (String × α)) (table : Keyed α)
    (distinct : (table.members ++ pairs).keys.Nodup) :
    (table.insertAll pairs).members = table.members ++ pairs := by
  induction pairs generalizing table with
  | nil => exact (List.append_nil _).symm
  | cons pair rest ih =>
      have absent : pair.1 ∉ table.members.keys := by
        intro present
        rw [Members.keys, List.map_append] at distinct
        exact (List.disjoint_of_nodup_append distinct) present (List.mem_cons_self ..)
      have step : (table.insert pair.1 pair.2).members = table.members ++ [pair] :=
        Members.insert_of_notMem pair.2 absent
      have grown : ((table.insert pair.1 pair.2).members ++ rest).keys.Nodup := by
        rw [step, List.append_assoc]
        exact distinct
      calc ((table.insert pair.1 pair.2).insertAll rest).members
          = (table.insert pair.1 pair.2).members ++ rest := ih _ grown
        _ = table.members ++ pair :: rest := by rw [step, List.append_assoc]; rfl

/-- Pairs without a repeated key are the members of their table, in the same order. -/
theorem Keyed.members_ofList {pairs : Members α} (distinct : pairs.keys.Nodup) :
    (Keyed.ofList pairs).members = pairs :=
  Keyed.members_insertAll pairs .empty distinct

/-- The members of a table are those that a list of pairs leaves in a plain list. -/
theorem Keyed.members_insertAll_eq (pairs : List (String × α)) (table : Keyed α) :
    (table.insertAll pairs).members = table.members.insertAll pairs := by
  induction pairs generalizing table with
  | nil => rfl
  | cons pair rest ih => exact ih (table.insert pair.1 pair.2)

/-- Only values of the list come into its table. -/
theorem Keyed.mem_of_get?_ofList {pairs : List (String × α)} {key : String} {value : α}
    (found : (Keyed.ofList pairs).get? key = some value) : (key, value) ∈ pairs := by
  rw [Keyed.get?_ofList] at found
  obtain ⟨pair, mem, chosen⟩ := List.mem_filterMap.1 (List.mem_of_getLast? found)
  split at chosen
  · next same =>
    obtain rfl := Option.some.inj chosen
    exact same ▸ mem
  · cases chosen

/-! ## Revising every value -/

/-- Gives every member a new value, or deletes it where there is none. -/
def Members.revise (f : String → α → Option β) (members : Members α) : Members β :=
  members.filterMap fun member => (f member.1 member.2).map fun value => (member.1, value)

theorem Members.revise_revise (f : String → α → Option β) {γ : Type v}
    (g : String → β → Option γ) (members : Members α) :
    (members.revise f).revise g = members.revise fun key value => (f key value).bind (g key) := by
  unfold revise
  rw [List.filterMap_filterMap]
  refine List.filterMap_congr fun member _ => ?_
  dsimp only
  cases f member.1 member.2 <;> rfl

theorem Members.keys_revise_sublist (f : String → α → Option β) (members : Members α) :
    (members.revise f).keys.Sublist members.keys := by
  induction members with
  | nil => exact List.Sublist.slnil
  | cons head rest ih =>
      rw [revise, List.filterMap_cons]
      cases f head.1 head.2 with
      | none => exact ih.cons head.1
      | some new => exact ih.cons_cons head.1

theorem Members.get?_revise (f : String → α → Option β) {members : Members α}
    (distinct : members.keys.Nodup) (key : String) :
    (members.revise f).get? key = (members.get? key).bind (f key) := by
  induction members with
  | nil => rfl
  | cons head rest ih =>
      obtain ⟨own, value⟩ := head
      obtain ⟨absent, distinctRest⟩ := List.nodup_cons.1 distinct
      have step : Members.revise f ((own, value) :: rest) =
          match f own value with
          | some new => (own, new) :: Members.revise f rest
          | none => Members.revise f rest := by
        unfold revise
        rw [List.filterMap_cons]
        cases f own value <;> rfl
      rw [step]
      by_cases same : own = key
      · subst same
        rw [get?, if_pos rfl, Option.bind_some]
        cases f own value with
        | some new => exact if_pos rfl
        | none => exact (get?_eq_none_iff _ own).2 (mt (keys_revise_sublist f rest).mem absent)
      · rw [get?, if_neg same, ← ih distinctRest]
        cases f own value with
        | some new => exact if_neg same
        | none => rfl

end PortalConfig
