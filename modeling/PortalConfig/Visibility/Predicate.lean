import PortalConfig.Visibility.Condition
import PortalConfig.Text.AsciiCase

/-!
# Visibility predicates

An `if` block compiles to a predicate once; whether a mount point shows is then a pure question of
the entity and the capabilities. Of several lists in a block only the first of `allOf`, `anyOf`,
`oneOf` counts, and no block or no list means always.
-/

namespace PortalConfig

/-- A test of an entity, given the capabilities if there are any. -/
abbrev Atom := Entity → Option Capabilities → Bool

namespace Atom

/-- Whether a name is among the expected ones, up to the case of ASCII letters. -/
def matchesAny (actual : Option String) (expected : List String) : Bool :=
  match actual with
  | some name => expected.any (Text.equalIgnoringCase · name)
  | none => false

/-- The test that a condition stands for. -/
def ofCondition : Condition → Atom
  | .callable holds => holds
  | .isKind kinds => fun entity _ => matchesAny entity.kind? kinds
  | .isType types => fun entity _ => matchesAny entity.specType? types
  | .annotated key => fun entity _ => entity.isAnnotated key
  | .unknown _ => fun _ _ => false

end Atom

/-- A compiled `if` block. -/
inductive Predicate
  | always
  | allOf (atoms : List Atom)
  | anyOf (atoms : List Atom)
  | oneOf (atoms : List Atom)

namespace Predicate

/-- Whether the predicate accepts an entity: all atoms, at least one, or exactly one hold. -/
def evaluate (predicate : Predicate) (entity : Entity) (capabilities : Option Capabilities) :
    Bool :=
  match predicate with
  | .always => true
  | .allOf atoms => atoms.all fun atom => atom entity capabilities
  | .anyOf atoms => atoms.any fun atom => atom entity capabilities
  | .oneOf atoms => (atoms.filter fun atom => atom entity capabilities).length == 1

/-- Compiles an `if` block that may be missing. -/
def compile : Option ConditionBlock → Predicate
  | none => .always
  | some block =>
    match block.allOf, block.anyOf, block.oneOf with
    | some atoms, _, _ => .allOf (atoms.map Atom.ofCondition)
    | none, some atoms, _ => .anyOf (atoms.map Atom.ofCondition)
    | none, none, some atoms => .oneOf (atoms.map Atom.ofCondition)
    | none, none, none => .always

end Predicate

end PortalConfig
