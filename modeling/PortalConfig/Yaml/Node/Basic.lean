/-!
# Nodes

A YAML document is a tree of nodes: scalars, sequences and mappings, each with the anchor and the
tag in front of it, and references to nodes by their anchor.
-/

namespace PortalConfig.Yaml

/-- What may stand in front of a node. -/
structure Properties (α : Type) where
  anchor : Option α
  /-- The whole tag, its handle replaced. -/
  tag : Option (List UInt8)
deriving DecidableEq

/-- Neither anchor nor tag. -/
def Properties.none {α : Type} : Properties α := ⟨.none, .none⟩

/-- A node. Its anchors are names, or the numbers that stand for them. -/
inductive Node (α : Type)
  | reference (anchor : α)
  | scalar (properties : Properties α) (isPlain : Bool) (text : String)
  | sequence (properties : Properties α) (items : List (Node α))
  | mapping (properties : Properties α) (entries : List (Node α × Node α))

namespace Node

variable {α : Type}

instance : Inhabited (Node α) := ⟨.scalar .none true ""⟩

/-- The node where none is written. -/
def empty : Node α := .scalar .none true ""

/-- The properties of a node that is no reference. -/
def properties : Node α → Properties α
  | reference _ => .none
  | scalar properties _ _ => properties
  | sequence properties _ => properties
  | mapping properties _ => properties

mutual

/-- How many marks the nodes of a tree have: one for a scalar and a reference, two for the
beginning and the end of a collection. -/
def marks : Node α → Nat
  | reference _ => 1
  | scalar .. => 1
  | sequence _ items => 2 + marksOfItems items
  | mapping _ entries => 2 + marksOfEntries entries

def marksOfItems : List (Node α) → Nat
  | [] => 0
  | item :: rest => marks item + marksOfItems rest

def marksOfEntries : List (Node α × Node α) → Nat
  | [] => 0
  | (key, value) :: rest => marks key + marks value + marksOfEntries rest

end

end Node

end PortalConfig.Yaml
