import PortalConfig.Yaml.Spot
import PortalConfig.Yaml.Token

/-!
# Tokens read so far

While tokens are read, three things are remembered beside them: in which columns the block
collections around a place started, whether a key may begin there, and where a key may have begun
that only its colon will show. Each pair of brackets has such a possible key of its own. When the
colon comes, the token for the key is put where the key began.
-/

namespace PortalConfig.Yaml

/-- A place where a key may have begun. -/
structure PossibleKey where
  /-- Whether nothing else can have begun there, because a block mapping goes on. -/
  isRequired : Bool
  /-- How many tokens come before it. -/
  position : Nat
  spot : Spot

/-- Whether a key that began there would be longer than 1024 bytes, or go over the end of a line. -/
def PossibleKey.isStale (key : PossibleKey) (s : Spot) : Bool :=
  decide (key.spot.line < s.line) || decide (key.spot.offset + 1024 < s.offset)

/-- The tokens read so far. -/
structure Tokens where
  tokens : Array Token
  /-- The columns of the block collections, innermost first. -/
  indents : List Nat
  /-- Whether a key may begin here without a mark of its own. -/
  allowsKey : Bool
  /-- The possible key of the innermost brackets. -/
  key : Option PossibleKey
  /-- The possible keys outside of these brackets, innermost first. -/
  outerKeys : List (Option PossibleKey)

namespace Tokens

/-- No tokens yet. -/
def empty : Tokens := ⟨#[], [], true, none, []⟩

/-- Whether the place is between brackets. -/
def inFlow (state : Tokens) : Bool := !state.outerKeys.isEmpty

/-- One more token. -/
def push (state : Tokens) (token : Token) : Tokens :=
  { state with tokens := state.tokens.push token }

/-- Says whether a key may begin next. -/
def allowKey (state : Tokens) (allowed : Bool) : Tokens := { state with allowsKey := allowed }

/-- Forgets the possible key; `none` when it had to be one. -/
def dropKey? (state : Tokens) : Option Tokens :=
  if state.key.any (·.isRequired) then none else some { state with key := none }

/-- Forgets the possible keys that cannot reach as far as `s`; `none` when one of them had to be a
key. -/
def dropStale? (state : Tokens) (s : Spot) : Option Tokens :=
  if (state.key :: state.outerKeys).any (·.any fun key => key.isRequired && key.isStale s) then
    none
  else
    let fresh (key : Option PossibleKey) := key.filter (!·.isStale s)
    some { state with key := fresh state.key, outerKeys := state.outerKeys.map fresh }

/-- Remembers that a key may have begun at `s`, if one may begin there. -/
def markKey? (state : Tokens) (s : Spot) : Option Tokens :=
  if state.allowsKey then
    state.dropKey?.map fun state =>
      let isRequired := !state.inFlow && state.indents.head? == some s.column
      { state with key := some ⟨isRequired, state.tokens.size, s⟩ }
  else some state

/-- Begins a block collection in a column, unless the innermost one started there or further to the
right. Its token is put before the token at the position. -/
def indent (state : Tokens) (column position : Nat) (token : Token) : Tokens :=
  if state.inFlow || state.indents.head?.any (column ≤ ·) then state
  else { state with
    tokens := state.tokens.insertIdxIfInBounds position token
    indents := column :: state.indents }

/-- Ends the innermost block collections, as many as are given. -/
def endBlocks (state : Tokens) (count : Nat) : Tokens :=
  { state with
    tokens := state.tokens ++ Array.replicate count .blockEnd
    indents := state.indents.drop count }

/-- Ends the block collections that started to the right of a column. -/
def dedent (state : Tokens) (column : Nat) : Tokens :=
  if state.inFlow then state
  else state.endBlocks (state.indents.takeWhile (column < ·)).length

/-- Ends all block collections. -/
def dedentAll (state : Tokens) : Tokens :=
  if state.inFlow then state else state.endBlocks state.indents.length

/-- Ends all block collections before a line that belongs to no document. -/
def leaveDocument? (state : Tokens) : Option Tokens :=
  (state.dedentAll.dropKey?).map (·.allowKey false)

/-- An opening bracket at `s`. -/
def openFlow? (state : Tokens) (s : Spot) (token : Token) : Option Tokens :=
  (state.markKey? s).map fun state =>
    { state.push token with
      allowsKey := true
      key := none
      outerKeys := state.key :: state.outerKeys }

/-- A closing bracket. -/
def closeFlow? (state : Tokens) (token : Token) : Option Tokens :=
  state.dropKey?.map fun state =>
    let state := (state.push token).allowKey false
    match state.outerKeys with
    | [] => state
    | key :: outerKeys => { state with key, outerKeys }

/-- A comma. -/
def flowEntry? (state : Tokens) : Option Tokens :=
  state.dropKey?.map fun state => (state.push .flowEntry).allowKey true

/-- The mark at `s` of a part of a block collection; in block context there has to be a place where
a key may begin. -/
def blockMark? (state : Tokens) (s : Spot) (collection : Token) : Option Tokens :=
  if state.inFlow || state.allowsKey then
    some (state.indent s.column state.tokens.size collection)
  else none

/-- A dash at `s`. -/
def blockEntry? (state : Tokens) (s : Spot) : Option Tokens :=
  ((state.blockMark? s .blockSequenceStart).bind dropKey?).map fun state =>
    (state.push .blockEntry).allowKey true

/-- A question mark at `s`. -/
def key? (state : Tokens) (s : Spot) : Option Tokens :=
  ((state.blockMark? s .blockMappingStart).bind dropKey?).map fun state =>
    (state.push .key).allowKey (!state.inFlow)

/-- A colon at `s`, which ends the possible key if there is one. -/
def value? (state : Tokens) (s : Spot) : Option Tokens :=
  match state.key with
  | some key =>
    let marked := { state with
      tokens := state.tokens.insertIdxIfInBounds key.position .key
      key := none
      allowsKey := false }
    some ((marked.indent key.spot.column key.position .blockMappingStart).push .value)
  | none => (state.blockMark? s .blockMappingStart).map fun state =>
      (state.allowKey (!state.inFlow)).push .value

end Tokens

end PortalConfig.Yaml
