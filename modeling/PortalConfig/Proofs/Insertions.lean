import Mathlib.Data.Finset.Card
import Mathlib.Data.List.Forall2
import PortalConfig.Proofs.Aggregation
import PortalConfig.Proofs.Frontend

/-!
# Runs of insertions

Position and fragment of a scope follow opposite rules: the first insertion settles where a scope
stands, the last one what it declares. `Frontend.Records` says both of a frontend and the insertions
that made it; one more insertion keeps it (`Frontend.Records.insert`), so every run does
(`Frontend.Records.insertAll`). Reading an object makes the same frontend as inserting its members
one by one (`Frontend.ofDoc_insertAll`), because setting one member is inserting one scope
(`Frontend.ofDoc_insert`).
-/

namespace PortalConfig

universe u

/-! ## The last value under a key -/

/-- The last of the pairs under a key has this value. -/
def LastGiven {α : Type u} (pairs : List (String × α)) (key : String) (value : α) : Prop :=
  ∃ before after, pairs = before ++ (key, value) :: after ∧ key ∉ Members.keys after

section LastGiven

variable {α : Type u} {pairs : List (String × α)} {key other : String} {value last : α}

theorem not_lastGiven_nil : ¬ LastGiven [] key value := by
  rintro ⟨before, after, eq, -⟩
  cases before <;> cases eq

/-- One more pair is the last under its own key and changes nothing under the others. -/
theorem lastGiven_concat_iff :
    LastGiven (pairs ++ [(key, value)]) other last ↔
      (other = key ∧ last = value) ∨ (other ≠ key ∧ LastGiven pairs other last) := by
  constructor
  · rintro ⟨before, after, eq, absent⟩
    rcases List.eq_nil_or_concat after with rfl | ⟨rest, pair, rfl⟩
    · obtain ⟨-, same⟩ := List.append_inj' eq rfl
      cases same
      exact Or.inl ⟨rfl, rfl⟩
    · rw [List.concat_eq_append] at eq absent
      rw [← List.cons_append, ← List.append_assoc] at eq
      obtain ⟨whole, same⟩ := List.append_inj' eq rfl
      cases same
      simp only [Members.keys, List.map_append, List.map_cons, List.map_nil, List.mem_append,
        List.mem_singleton, not_or] at absent
      exact Or.inr ⟨absent.2, before, rest, whole, absent.1⟩
  · rintro (⟨rfl, rfl⟩ | ⟨ne, before, after, rfl, absent⟩)
    · exact ⟨pairs, [], rfl, List.not_mem_nil⟩
    · refine ⟨before, after ++ [(key, value)], ?_, ?_⟩
      · rw [List.append_assoc, List.cons_append]
      · simp only [Members.keys, List.map_append, List.map_cons, List.map_nil, List.mem_append,
          List.mem_singleton, not_or]
        exact ⟨absent, ne⟩

end LastGiven

/-! ## Steps and runs -/

/-- Inserts scopes one after the other. -/
def Frontend.insertAll (frontend : Frontend) (insertions : List (String × Fragment)) : Frontend :=
  insertions.foldl (fun acc insertion => acc.insert insertion.1 insertion.2) frontend

/-- A frontend holds what insertions left: every scope once, where it came up first, with the
fragment that it was given last. -/
structure Frontend.Records (frontend : Frontend) (insertions : List (String × Fragment)) :
    Prop where
  scopeNames_eq : frontend.scopeNames = (Members.keys insertions).eraseDups
  get?_eq_some_iff (scope : String) (fragment : Fragment) :
    frontend.get? scope = some fragment ↔ LastGiven insertions scope fragment

section Runs

variable {frontend : Frontend} {insertions : List (String × Fragment)}

theorem Frontend.records_empty : empty.Records [] where
  scopeNames_eq := rfl
  get?_eq_some_iff _ _ := ⟨nofun, fun given => (not_lastGiven_nil given).elim⟩

theorem Frontend.Records.insert (records : frontend.Records insertions) (scope : String)
    (fragment : Fragment) :
    (frontend.insert scope fragment).Records (insertions ++ [(scope, fragment)]) where
  scopeNames_eq := by
    have step : (frontend.insert scope fragment).scopeNames =
        if scope ∈ frontend.scopeNames then frontend.scopeNames
        else frontend.scopeNames ++ [scope] :=
      Members.keys_upsert frontend.scopes.members scope _
    have keys : Members.keys (insertions ++ [(scope, fragment)]) =
        Members.keys insertions ++ [scope] := List.map_append
    rw [step, keys, records.scopeNames_eq, List.eraseDups_append]
    by_cases present : scope ∈ Members.keys insertions
    · have nothing : [scope].removeAll (Members.keys insertions) = [] := by
        simp [List.removeAll, present]
      rw [if_pos (List.mem_eraseDups.2 present), nothing, List.eraseDups_nil, List.append_nil]
    · have one : [scope].removeAll (Members.keys insertions) = [scope] := by
        simp [List.removeAll, present]
      rw [if_neg (mt List.mem_eraseDups.1 present), one]
      rfl
  get?_eq_some_iff other last := by
    rw [lastGiven_concat_iff, ← records.get?_eq_some_iff]
    by_cases same : other = scope
    · subst same
      have found : (frontend.insert other fragment).get? other = some fragment :=
        Keyed.get?_upsert_self frontend.scopes other _
      rw [found, Option.some.injEq]
      simp [eq_comm]
    · have kept : (frontend.insert scope fragment).get? other = frontend.get? other :=
        Keyed.get?_upsert_of_ne frontend.scopes _ same
      rw [kept]
      simp [same]

theorem Frontend.Records.insertAll (records : frontend.Records insertions)
    (more : List (String × Fragment)) :
    (frontend.insertAll more).Records (insertions ++ more) := by
  induction more generalizing frontend insertions with
  | nil =>
      rw [List.append_nil]
      exact records
  | cons insertion rest ih =>
      have run := ih (records.insert insertion.1 insertion.2)
      rw [List.append_assoc] at run
      exact run

/-! ## What is read off a frontend -/

theorem Frontend.Records.get?_eq_none_iff (records : frontend.Records insertions)
    (scope : String) : frontend.get? scope = none ↔ scope ∉ Members.keys insertions := by
  have absent : frontend.get? scope = none ↔ scope ∉ frontend.scopeNames :=
    Members.get?_eq_none_iff frontend.scopes.members scope
  rw [absent, records.scopeNames_eq, List.mem_eraseDups]

theorem Frontend.Records.forall₂_toList (records : frontend.Records insertions) :
    List.Forall₂ (fun scope entry => entry.1 = scope ∧ LastGiven insertions scope entry.2)
      (Members.keys insertions).eraseDups frontend.toList := by
  have names : (Members.keys insertions).eraseDups = frontend.toList.map Prod.fst :=
    records.scopeNames_eq.symm
  rw [names, List.forall₂_map_left_iff, List.forall₂_same]
  intro entry mem
  have found : frontend.get? entry.1 = some entry.2 :=
    Members.get?_of_mem frontend.scopes.nodup mem
  exact ⟨rfl, (records.get?_eq_some_iff _ _).1 found⟩

/-- There are as many scopes as there are different names. -/
theorem Frontend.Records.size_eq (records : frontend.Records insertions) :
    frontend.scopes.size = (Members.keys insertions).toFinset.card := by
  have names : frontend.scopeNames.toFinset = (Members.keys insertions).toFinset := by
    ext scope
    rw [records.scopeNames_eq, List.mem_toFinset, List.mem_toFinset, List.mem_eraseDups]
  calc frontend.scopes.size
      = frontend.scopeNames.length := (List.length_map Prod.fst).symm
    _ = frontend.scopeNames.toFinset.card :=
        (List.toFinset_card_of_nodup frontend.scopes.nodup).symm
    _ = (Members.keys insertions).toFinset.card := by rw [names]

end Runs

/-! ## Objects -/

/-- Changing every value of a list of members changes the value that is set. -/
theorem Members.map_insert {α β : Type} (f : α → β) (members : Members α) (key : String)
    (value : α) :
    (members.insert key value).map (fun member => (member.1, f member.2)) =
      Members.insert (members.map fun member => (member.1, f member.2)) key (f value) := by
  induction members with
  | nil => rfl
  | cons head rest ih =>
      obtain ⟨own, present⟩ := head
      by_cases same : own = key
      · simp [insert, upsert, same]
      · simpa [insert, upsert, same] using ih

theorem Frontend.eq_of_toList_eq {frontend other : Frontend}
    (same : frontend.toList = other.toList) : frontend = other := by
  obtain ⟨⟨members, _⟩⟩ := frontend
  obtain ⟨⟨others, _⟩⟩ := other
  cases (same : members = others)
  rfl

/-- Setting a member of an object is inserting a scope. -/
theorem Frontend.ofDoc_insert (declared : Keyed Doc) (scope : String) (plugin : Doc) :
    ofDoc (.object (declared.insert scope plugin).members) =
      (ofDoc (.object declared.members)).insert scope (Fragment.ofDoc plugin) := by
  refine eq_of_toList_eq ?_
  have inserted : ((ofDoc (.object declared.members)).insert scope (Fragment.ofDoc plugin)).toList =
      Members.insert (ofDoc (.object declared.members)).toList scope (Fragment.ofDoc plugin) := rfl
  rw [inserted, toList_ofDoc, toList_ofDoc]
  exact Members.map_insert Fragment.ofDoc declared.members scope plugin

theorem Frontend.ofDoc_insertAll (declared : Keyed Doc) (plugins : Members Doc) :
    ofDoc (.object (declared.insertAll plugins).members) =
      (ofDoc (.object declared.members)).insertAll
        (plugins.map fun member => (member.1, Fragment.ofDoc member.2)) := by
  induction plugins generalizing declared with
  | nil => rfl
  | cons member rest ih =>
      have run := ih (declared.insert member.1 member.2)
      rw [ofDoc_insert] at run
      exact run

/-- **A run of insertions into an empty frontend** leaves every scope once, in the order in which
the scopes came up first, each with the fragment that it was given last and with the module of that
fragment; what was never inserted is not found, and there are as many scopes as different names.
Where the fragments come from documents, it is the frontend of the object with these members, in
which a repeated key has its last value at its first place. -/
theorem Frontend.insertAll_empty (insertions : List (String × Fragment)) :
    List.Forall₂ (fun scope entry => entry.1 = scope ∧ LastGiven insertions scope entry.2)
        (Members.keys insertions).eraseDups (empty.insertAll insertions).toList ∧
      (∀ scope fragment, (empty.insertAll insertions).get? scope = some fragment ↔
        LastGiven insertions scope fragment) ∧
      (∀ scope, (empty.insertAll insertions).get? scope = none ↔
        scope ∉ Members.keys insertions) ∧
      (empty.insertAll insertions).scopes.size = (Members.keys insertions).toFinset.card ∧
      (∀ plugins : Members Doc,
        empty.insertAll (plugins.map fun member => (member.1, Fragment.ofDoc member.2)) =
          ofDoc (.object (Members.insertAll [] plugins))) ∧
      List.Forall₂ (fun scope entry => entry.scope = scope ∧ ∃ fragment,
          LastGiven insertions scope fragment ∧
            entry.module = fragment.pluginModule.getD defaultModule)
        (Members.keys insertions).eraseDups
        (empty.insertAll insertions).resolve.pluginModules := by
  have records : (empty.insertAll insertions).Records insertions :=
    records_empty.insertAll insertions
  refine ⟨records.forall₂_toList, records.get?_eq_some_iff, records.get?_eq_none_iff,
    records.size_eq, fun plugins => ?_, ?_⟩
  · have members : Members.insertAll [] plugins = (Keyed.empty.insertAll plugins).members :=
      (Keyed.members_insertAll_eq plugins .empty).symm
    rw [members, ofDoc_insertAll]
    rfl
  · rw [pluginModules_resolve, List.forall₂_map_right_iff]
    refine records.forall₂_toList.imp fun scope entry holds => ?_
    exact ⟨holds.1, entry.2, holds.2, rfl⟩

example (first second third : Fragment) :
    (Frontend.empty.insertAll [("a", first), ("b", second), ("a", third)]).toList =
      [("a", third), ("b", second)] := rfl

end PortalConfig
