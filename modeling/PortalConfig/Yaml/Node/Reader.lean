import PortalConfig.Text.Rest
import PortalConfig.Yaml.Node.Basic
import PortalConfig.Yaml.Token

/-!
# Reading nodes

The grammar of nodes over tokens. Where a node may be missing, the token that follows shows it, and
an empty node stands in.
-/

namespace PortalConfig.Yaml

/-- What the tags with some handle start with. -/
abbrev Handles := List (String × List UInt8)

/-- The handles that every document has. -/
def Handles.standard : Handles :=
  [("!", ['!'.toUInt8]), ("!!", "tag:yaml.org,2002:".toList.map Char.toUInt8)]

/-- The tag that a handle and a suffix stand for; `none` for an unknown handle. -/
def Handles.resolve? (handles : Handles) (handle : String) (suffix : List UInt8) :
    Option (List UInt8) :=
  if handle.isEmpty then some suffix else (handles.lookup handle).map (· ++ suffix)

/-- Where a node stands. -/
inductive Place
  /-- The whole document. -/
  | root
  /-- After a dash. -/
  | item
  /-- After a dash that is not indented below its key. -/
  | flushItem
  /-- The key or the value of a block mapping. -/
  | entry
  /-- An item between square brackets. -/
  | flowItem
  /-- The value of a single pair between square brackets. -/
  | pairValue
  /-- A key between braces. -/
  | flowKey
  /-- A value between braces. -/
  | flowValue
deriving DecidableEq

namespace Place

/-- Whether a block collection may stand here. -/
def isBlock : Place → Bool
  | root | item | flushItem | entry => true
  | flowItem | pairValue | flowKey | flowValue => false

/-- Whether nothing is written at this place when the token comes next. -/
def isEmptyBefore : Place → Token → Bool
  | root, token => token == .documentEnd
  | item, token => [.blockEntry, .blockEnd].contains token
  | flushItem, token => [.blockEntry, .key, .value, .blockEnd].contains token
  | entry, token => [.key, .value, .blockEnd].contains token
  | flowItem, _ => false
  | pairValue, token => [.flowEntry, .flowSequenceEnd].contains token
  | flowKey, token => [.value, .flowEntry, .flowMappingEnd].contains token
  | flowValue, token => [.flowEntry, .flowMappingEnd].contains token

/-- Whether the content of a node begins with the token. -/
def admits (place : Place) : Token → Bool
  | .scalar .. | .flowSequenceStart | .flowMappingStart => true
  | .blockSequenceStart | .blockMappingStart => place.isBlock
  | .blockEntry => place == .entry
  | _ => false

end Place

namespace Node

mutual

/-- A node. -/
def read? (handles : Handles) (place : Place) (tokens : List Token) :
    Option (Rest Token (Node String) tokens.length) :=
  match tokens with
  | .reference name :: rest => some ⟨.reference name, rest, by simp⟩
  | .anchor anchor :: .tag handle suffix :: rest =>
    match handles.resolve? handle suffix with
    | none => none
    | some tag =>
      (afterProperties? handles place ⟨some anchor, some tag⟩ rest).map (·.widen (by simp))
  | .tag handle suffix :: .anchor anchor :: rest =>
    match handles.resolve? handle suffix with
    | none => none
    | some tag =>
      (afterProperties? handles place ⟨some anchor, some tag⟩ rest).map (·.widen (by simp))
  | .anchor anchor :: rest => afterProperties? handles place ⟨some anchor, none⟩ rest
  | .tag handle suffix :: rest =>
    match handles.resolve? handle suffix with
    | none => none
    | some tag => afterProperties? handles place ⟨none, some tag⟩ rest
  | tokens => content? handles place .none tokens
termination_by 6 * tokens.length + 2

/-- What follows the properties of a node, which may be nothing. -/
def afterProperties? (handles : Handles) (place : Place) (properties : Properties String)
    (tokens : List Token) : Option (Rest Token (Node String) (tokens.length + 1)) :=
  if tokens.head?.any place.admits then
    (content? handles place properties tokens).map (·.widen (by omega))
  else some ⟨.scalar properties true "", tokens, by omega⟩
termination_by 6 * tokens.length + 2

/-- The content of a node. -/
def content? (handles : Handles) (place : Place) (properties : Properties String)
    (tokens : List Token) : Option (Rest Token (Node String) tokens.length) :=
  match tokens with
  | .scalar isPlain text :: rest =>
    some ⟨.scalar properties isPlain text, rest, by simp⟩
  | .flowSequenceStart :: rest =>
    (flowItems? handles rest).map fun items => (items.map (.sequence properties)).widen (by simp)
  | .flowMappingStart :: rest =>
    (flowEntries? handles rest).map fun entries =>
      (entries.map (.mapping properties)).widen (by simp)
  | .blockSequenceStart :: rest =>
    if place.isBlock then
      (items? handles .item rest).map fun items => items.map (.sequence properties)
    else none
  | .blockMappingStart :: rest =>
    if place.isBlock then
      (entries? handles rest).map fun entries =>
        (entries.map (.mapping properties)).widen (by simp)
    else none
  | .blockEntry :: rest =>
    if place = .entry then
      (itemsFrom? handles .flushItem rest).map fun items => items.map (.sequence properties)
    else none
  | _ => none
termination_by 6 * tokens.length + 1

/-- A node that may be missing. -/
def readOrEmpty? (handles : Handles) (place : Place) (tokens : List Token) :
    Option (Rest Token (Node String) (tokens.length + 1)) :=
  if tokens.head?.any place.isEmptyBefore then some ⟨.empty, tokens, by omega⟩
  else (read? handles place tokens).map (·.widen (by omega))
termination_by 6 * tokens.length + 3

/-- A value after a colon, which may be missing with or without the colon. -/
def value? (handles : Handles) (place : Place) (tokens : List Token) :
    Option (Rest Token (Node String) (tokens.length + 1)) :=
  match tokens with
  | .value :: rest => (readOrEmpty? handles place rest).map (·.widen (by simp))
  | tokens => some ⟨.empty, tokens, by omega⟩
termination_by 6 * tokens.length + 4

/-- The items of a block sequence, from the text after a dash. -/
def itemsFrom? (handles : Handles) (place : Place) (tokens : List Token) :
    Option (Rest Token (List (Node String)) (tokens.length + 1)) :=
  match readOrEmpty? handles place tokens with
  | none => none
  | some first =>
    have := first.shorter
    (items? handles place first.rest).map fun others =>
      (others.map (first.value :: ·)).widen (by omega)
termination_by 6 * tokens.length + 5

/-- The items of a block sequence. -/
def items? (handles : Handles) (place : Place) (tokens : List Token) :
    Option (Rest Token (List (Node String)) (tokens.length + 1)) :=
  match tokens with
  | .blockEntry :: rest => (itemsFrom? handles place rest).map (·.widen (by simp))
  | tokens =>
    if place = .flushItem then some ⟨[], tokens, by omega⟩
    else if tokens.head? = some .blockEnd then
      some ⟨[], tokens.drop 1, by simp only [List.length_drop]; omega⟩
    else none
termination_by 6 * tokens.length + 4

/-- The entries of a block mapping. -/
def entries? (handles : Handles) (tokens : List Token) :
    Option (Rest Token (List (Node String × Node String)) tokens.length) :=
  match tokens with
  | .blockEnd :: rest => some ⟨[], rest, by simp⟩
  | .key :: rest =>
    match readOrEmpty? handles .entry rest with
    | none => none
    | some key =>
      have := key.shorter
      match value? handles .entry key.rest with
      | none => none
      | some value =>
        have := value.shorter
        (entries? handles value.rest).map fun others =>
          (others.map ((key.value, value.value) :: ·)).widen (by simp; omega)
  | _ => none
termination_by 6 * tokens.length + 0

/-- A single pair between square brackets, from the text after its mark. Without a key, the token
after the mark is left out. -/
def pair? (handles : Handles) (tokens : List Token) :
    Option (Rest Token (Node String × Node String) (tokens.length + 1)) :=
  match tokens with
  | .value :: rest | .flowEntry :: rest | .flowSequenceEnd :: rest =>
    (value? handles .pairValue rest).map fun value =>
      (value.map fun value => (.empty, value)).widen (by simp)
  | tokens =>
    match read? handles .flowItem tokens with
    | none => none
    | some key =>
      have := key.shorter
      (value? handles .pairValue key.rest).map fun value =>
        (value.map fun value => (key.value, value)).widen (by omega)
termination_by 6 * tokens.length + 5

/-- The items between square brackets, up to and with the closing one. -/
def flowItems? (handles : Handles) (tokens : List Token) :
    Option (Rest Token (List (Node String)) tokens.length) :=
  match tokens with
  | .flowSequenceEnd :: rest => some ⟨[], rest, by simp⟩
  | .key :: rest =>
    match pair? handles rest with
    | none => none
    | some pair =>
      have := pair.shorter
      (moreFlowItems? handles pair.rest).map fun others =>
        (others.map (.mapping .none [pair.value] :: ·)).widen (by simp; omega)
  | tokens =>
    match read? handles .flowItem tokens with
    | none => none
    | some first =>
      have := first.shorter
      (moreFlowItems? handles first.rest).map fun others =>
        (others.map (first.value :: ·)).widen (by omega)
termination_by 6 * tokens.length + 3

/-- What follows an item between square brackets. -/
def moreFlowItems? (handles : Handles) (tokens : List Token) :
    Option (Rest Token (List (Node String)) tokens.length) :=
  match tokens with
  | .flowSequenceEnd :: rest => some ⟨[], rest, by simp⟩
  | .flowEntry :: rest => (flowItems? handles rest).map (·.widen (by simp))
  | _ => none
termination_by 6 * tokens.length + 0

/-- The entries between braces, up to and with the closing one. -/
def flowEntries? (handles : Handles) (tokens : List Token) :
    Option (Rest Token (List (Node String × Node String)) tokens.length) :=
  match tokens with
  | .flowMappingEnd :: rest => some ⟨[], rest, by simp⟩
  | .key :: rest =>
    match readOrEmpty? handles .flowKey rest with
    | none => none
    | some key =>
      have := key.shorter
      match value? handles .flowValue key.rest with
      | none => none
      | some value =>
        have := value.shorter
        (moreFlowEntries? handles value.rest).map fun others =>
          (others.map ((key.value, value.value) :: ·)).widen (by simp; omega)
  | tokens =>
    match read? handles .flowKey tokens with
    | none => none
    | some key =>
      have := key.shorter
      (moreFlowEntries? handles key.rest).map fun others =>
        (others.map ((key.value, .empty) :: ·)).widen (by omega)
termination_by 6 * tokens.length + 3

/-- What follows an entry between braces. -/
def moreFlowEntries? (handles : Handles) (tokens : List Token) :
    Option (Rest Token (List (Node String × Node String)) tokens.length) :=
  match tokens with
  | .flowMappingEnd :: rest => some ⟨[], rest, by simp⟩
  | .flowEntry :: rest => (flowEntries? handles rest).map (·.widen (by simp))
  | _ => none
termination_by 6 * tokens.length + 0

end

end Node

end PortalConfig.Yaml
