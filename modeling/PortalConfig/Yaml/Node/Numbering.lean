import PortalConfig.Keyed
import PortalConfig.Yaml.Node.Basic

/-!
# Numbers of anchors

An anchor has a number: how many different names were anchored before it. A reference stands for
the number that its name had last, and a number for the last node in the document that has it. When
a name is anchored twice, its second node shares a number with the next new name, and references to
either of the two stand for the later node.
-/

namespace PortalConfig.Yaml.Node

/-- The numbers of the names anchored so far, and the properties with the number of the anchor. -/
def numberProperties (numbers : Members Nat) (properties : Properties String) :
    Members Nat × Properties Nat :=
  match properties.anchor with
  | some name => (numbers.insert name numbers.length, ⟨some numbers.length, properties.tag⟩)
  | none => (numbers, ⟨none, properties.tag⟩)

mutual

/-- The node with its anchors numbered; `none` when a reference comes before its anchor. -/
def number? (numbers : Members Nat) : Node String → Option (Members Nat × Node Nat)
  | reference name => (numbers.get? name).map fun n => (numbers, .reference n)
  | scalar properties isPlain text =>
    let (numbers, properties) := numberProperties numbers properties
    some (numbers, .scalar properties isPlain text)
  | sequence properties items =>
    let (numbers, properties) := numberProperties numbers properties
    (numberItems? numbers items).map fun (numbers, items) => (numbers, .sequence properties items)
  | mapping properties entries =>
    let (numbers, properties) := numberProperties numbers properties
    (numberEntries? numbers entries).map fun (numbers, entries) =>
      (numbers, .mapping properties entries)

def numberItems? (numbers : Members Nat) :
    List (Node String) → Option (Members Nat × List (Node Nat))
  | [] => some (numbers, [])
  | item :: rest =>
    (number? numbers item).bind fun (numbers, item) =>
      (numberItems? numbers rest).map fun (numbers, rest) => (numbers, item :: rest)

def numberEntries? (numbers : Members Nat) :
    List (Node String × Node String) → Option (Members Nat × List (Node Nat × Node Nat))
  | [] => some (numbers, [])
  | (key, value) :: rest =>
    (number? numbers key).bind fun (numbers, key) =>
      (number? numbers value).bind fun (numbers, value) =>
        (numberEntries? numbers rest).map fun (numbers, rest) => (numbers, (key, value) :: rest)

end

mutual

/-- The nodes that have an anchor, with its number, the last one first, in front of `others`. -/
def anchored (others : List (Nat × Node Nat)) (node : Node Nat) : List (Nat × Node Nat) :=
  let others := match node.properties.anchor with
    | some n => (n, node) :: others
    | none => others
  match node with
  | reference _ => others
  | scalar .. => others
  | sequence _ items => anchoredItems others items
  | mapping _ entries => anchoredEntries others entries

def anchoredItems (others : List (Nat × Node Nat)) : List (Node Nat) → List (Nat × Node Nat)
  | [] => others
  | item :: rest => anchoredItems (anchored others item) rest

def anchoredEntries (others : List (Nat × Node Nat)) :
    List (Node Nat × Node Nat) → List (Nat × Node Nat)
  | [] => others
  | (key, value) :: rest => anchoredEntries (anchored (anchored others key) value) rest

end

end PortalConfig.Yaml.Node
