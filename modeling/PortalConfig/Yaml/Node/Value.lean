import PortalConfig.Yaml.Node.Numbering
import PortalConfig.Yaml.Scalar.Value

/-!
# Values of nodes

The document that a node holds, each reference replaced by the node that it stands for. Collections
are nested at most 128 deep, and references are followed at most a hundred times as often as there
are marks in the document, so that a small text does not grow without bounds.
-/

namespace PortalConfig.Yaml

/-- How deeply collections may be nested. -/
def depthLimit : Nat := 128

/-- The nodes that have an anchor, and a number of references that may still be followed. -/
abbrev Following := ReaderT (List (Nat × Node Nat)) (StateT Nat Option)

namespace Node

/-- The node that a reference stands for, or the node itself. -/
def target (node : Node Nat) : Following (Node Nat) :=
  match node with
  | .reference n => do
    match ← get with
    | 0 => failure
    | left + 1 =>
      set left
      match (← read).lookup n with
      | some target => return target
      | none => failure
  | node => return node

/-- The key that a node stands for, which is the text of a scalar as it is written. -/
def keyText (node : Node Nat) : Following String := do
  match ← node.target with
  | .scalar _ _ text => return text
  | _ => failure

/-- The node that is meant, unless its tag asks for a value that no document has. -/
def admitted (node : Node Nat) : Following (Node Nat) := do
  let node ← node.target
  guard (!node.properties.tag.any Tag.isRefused)
  return node

/-- The document of a node that is no reference. The nodes in a collection are read by `inner`, if
there is room for one. -/
def content (inner : Option (Node Nat → Following Doc)) (node : Node Nat) : Following Doc :=
  match inner, node with
  | _, .scalar properties isPlain text => liftM (scalarValue? properties.tag isPlain text)
  | some inner, .sequence _ items => return .array (← items.mapM inner)
  | some inner, .mapping _ entries => do
    let pairs ← entries.mapM fun (key, node) => do return (← key.keyText, ← inner node)
    return .object (Members.insertAll [] pairs)
  | _, _ => failure

/-- The document that a node holds; `room` is how many collections may still be nested. -/
def value : (room : Nat) → (node : Node Nat) → Following Doc
  | 0, node => do (← node.admitted).content none
  | room + 1, node => do (← node.admitted).content (some (value room))

/-- The document that a whole tree holds. -/
def doc? (node : Node String) : Option Doc := do
  let (_, node) ← node.number? []
  let (doc, _) ← (node.value depthLimit).run (node.anchored []) |>.run (node.marks * 100)
  return doc

end Node

end PortalConfig.Yaml
