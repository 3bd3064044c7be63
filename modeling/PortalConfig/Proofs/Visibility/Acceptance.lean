import PortalConfig.Proofs.Visibility.Meaning

/-!
# Which entities a block accepts

A block that has been read, or built in code, holds three lists of conditions, each perhaps missing.
`ConditionBlock.Accepts` says of which entities such a block is true, without the predicate that it
compiles to; `Predicate.evaluate_compile_iff_accepts` says that the predicate agrees.
-/

namespace PortalConfig

open Visibility

/-- Which conditions are true of an entity. A condition that is not understood never is. -/
inductive Condition.Holds (entity : Entity) (capabilities : Option Capabilities) :
    Condition → Prop
  | callable {test : Entity → Option Capabilities → Bool} :
    test entity capabilities = true → Holds entity capabilities (.callable test)
  | isKind {kinds : List String} {kind expected : String} :
    entity.kind? = some kind → expected ∈ kinds → Text.equalIgnoringCase expected kind = true →
    Holds entity capabilities (.isKind kinds)
  | isType {types : List String} {type expected : String} :
    entity.specType? = some type → expected ∈ types →
    Text.equalIgnoringCase expected type = true → Holds entity capabilities (.isType types)
  | annotated {key : String} :
    entity.isAnnotated key = true → Holds entity capabilities (.annotated key)

/-- Which blocks accept an entity: none at all, a block whose first list that is there says so (all
of `allOf`, one of `anyOf`, exactly one of `oneOf`), and a block without lists. -/
inductive ConditionBlock.Accepts (entity : Entity) (capabilities : Option Capabilities) :
    Option ConditionBlock → Prop
  | missing : Accepts entity capabilities none
  | allOf {atoms : List Condition} {anyOf oneOf : Option (List Condition)} :
    (∀ atom ∈ atoms, atom.Holds entity capabilities) →
    Accepts entity capabilities (some ⟨some atoms, anyOf, oneOf⟩)
  | anyOf {atoms : List Condition} {atom : Condition} {oneOf : Option (List Condition)} :
    atom ∈ atoms → atom.Holds entity capabilities →
    Accepts entity capabilities (some ⟨none, some atoms, oneOf⟩)
  | oneOf {before after : List Condition} {atom : Condition} :
    (∀ other ∈ before ++ after, ¬ other.Holds entity capabilities) →
    atom.Holds entity capabilities →
    Accepts entity capabilities (some ⟨none, none, some (before ++ atom :: after)⟩)
  | withoutList : Accepts entity capabilities (some ⟨none, none, none⟩)

section Agreement

variable {entity : Entity} {capabilities : Option Capabilities}

theorem Atom.ofCondition_iff_holds {condition : Condition} :
    ofCondition condition entity capabilities = true ↔ condition.Holds entity capabilities := by
  cases condition with
  | callable test =>
      refine ⟨.callable, fun holds => ?_⟩
      cases holds with
      | callable accepted => exact accepted
  | isKind kinds =>
      refine matchesAny_iff.trans ⟨?_, fun holds => ?_⟩
      · intro matched
        obtain ⟨kind, own, expected, mem, same⟩ := matched
        exact .isKind own mem same
      · cases holds with
        | isKind own mem same => exact ⟨_, own, _, mem, same⟩
  | isType types =>
      refine matchesAny_iff.trans ⟨?_, fun holds => ?_⟩
      · intro matched
        obtain ⟨type, own, expected, mem, same⟩ := matched
        exact .isType own mem same
      · cases holds with
        | isType own mem same => exact ⟨_, own, _, mem, same⟩
  | annotated key =>
      refine ⟨.annotated, fun holds => ?_⟩
      cases holds with
      | annotated present => exact present
  | unknown doc => exact ⟨nofun, nofun⟩

/-! ## The list that decides -/

section Lists

variable {atoms : List Condition} {anyOf oneOf : Option (List Condition)}

theorem ConditionBlock.accepts_allOf_iff :
    Accepts entity capabilities (some ⟨some atoms, anyOf, oneOf⟩) ↔
      ∀ atom ∈ atoms, atom.Holds entity capabilities := by
  refine ⟨fun accepts => ?_, .allOf⟩
  cases accepts with
  | allOf all => exact all

theorem ConditionBlock.accepts_anyOf_iff :
    Accepts entity capabilities (some ⟨none, some atoms, oneOf⟩) ↔
      ∃ atom ∈ atoms, atom.Holds entity capabilities := by
  refine ⟨fun accepts => ?_, fun found => ?_⟩
  · cases accepts with
    | anyOf mem holds => exact ⟨_, mem, holds⟩
  · obtain ⟨atom, mem, holds⟩ := found
    exact .anyOf mem holds

theorem ConditionBlock.accepts_oneOf_iff :
    Accepts entity capabilities (some ⟨none, none, some atoms⟩) ↔
      ∃ before atom after, atoms = before ++ atom :: after ∧
        (∀ other ∈ before ++ after, ¬ other.Holds entity capabilities) ∧
        atom.Holds entity capabilities := by
  refine ⟨fun accepts => ?_, fun single => ?_⟩
  · cases accepts with
    | oneOf others holds => exact ⟨_, _, _, rfl, others, holds⟩
  · obtain ⟨before, atom, after, rfl, others, holds⟩ := single
    exact .oneOf others holds

end Lists

/-- **A compiled block accepts the entities of which its conditions are true.** -/
theorem Predicate.evaluate_compile_iff_accepts {block : Option ConditionBlock} :
    (compile block).evaluate entity capabilities = true ↔
      ConditionBlock.Accepts entity capabilities block := by
  cases block with
  | none => exact ⟨fun _ => .missing, fun _ => rfl⟩
  | some block =>
      obtain ⟨all, any, one⟩ := block
      -- The first list that is there decides, whatever the later ones hold.
      cases all with
      | some all =>
          rw [ConditionBlock.accepts_allOf_iff]
          simp only [compile, evaluate, List.all_map, List.all_eq_true, Function.comp_apply,
            Atom.ofCondition_iff_holds]
      | none =>
          cases any with
          | some any =>
              rw [ConditionBlock.accepts_anyOf_iff]
              simp only [compile, evaluate, List.any_map, List.any_eq_true, Function.comp_apply,
                Atom.ofCondition_iff_holds]
          | none =>
              cases one with
              | some one =>
                  rw [ConditionBlock.accepts_oneOf_iff]
                  simp only [compile, evaluate, List.filter_map, List.length_map, beq_iff_eq,
                    length_filter_eq_one_iff, Function.comp_apply, Atom.ofCondition_iff_holds]
              | none => exact ⟨fun _ => .withoutList, fun _ => rfl⟩

instance (block : Option ConditionBlock) :
    Decidable (ConditionBlock.Accepts entity capabilities block) :=
  decidable_of_iff _ Predicate.evaluate_compile_iff_accepts

end Agreement

end PortalConfig
