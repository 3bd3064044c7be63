import PortalConfig.Yaml.Directive
import PortalConfig.Yaml.Scalar.Block
import PortalConfig.Yaml.Scalar.Plain
import PortalConfig.Yaml.Scalar.Quoted
import PortalConfig.Yaml.Tokens.Basic

/-!
# Reading tokens

Between two tokens blanks, comments and line ends are skipped. The character that follows decides
what the next token is.
-/

namespace PortalConfig.Yaml

namespace Tokens

/-- Leaves out what stands between two tokens. Outside brackets a key may begin on a new line, and
where a key may begin a tab is no blank. -/
def skip (inFlow allowsKey : Bool) (text : List Spot) : Bool × List Spot :=
  match text with
  | [] => (allowsKey, [])
  | s :: rest =>
    if s.char = '\uFEFF' ∧ s.column = 0 then skip inFlow allowsKey rest
    else if s.char = ' ' ∨ (s.char = '\t' ∧ (inFlow ∨ !allowsKey)) then skip inFlow allowsKey rest
    else if s.char = '#' then
      have := length_skipLine_le rest
      skip inFlow allowsKey (skipLine rest)
    else if isBreak s.char then skip inFlow (allowsKey || !inFlow) rest
    else (allowsKey, s :: rest)
termination_by text.length

theorem length_skip_le (inFlow allowsKey : Bool) (text : List Spot) :
    (skip inFlow allowsKey text).2.length ≤ text.length := by
  fun_induction skip inFlow allowsKey text with
  | case1 => exact Nat.le_refl _
  | case2 allowsKey s rest _ ih => simp; omega
  | case3 allowsKey s rest _ _ ih => simp; omega
  | case4 allowsKey s rest _ _ _ bound ih => simp; omega
  | case5 allowsKey s rest _ _ _ _ ih => simp; omega
  | case6 => exact Nat.le_refl _

/-- The tokens when nothing but the character at hand was read. -/
def before (rest : List Spot) (state : Tokens) : Rest Spot Tokens (rest.length + 1) :=
  .of state rest

/-- Reads a directive, from the text after its percent sign. -/
def directive? (state : Tokens) (rest : List Spot) : Option (Rest Spot Tokens (rest.length + 1)) :=
  state.leaveDocument?.bind fun state =>
    (Directive.read? rest).map fun directive => directive.map state.push

/-- Reads the mark of the beginning or the end of a document, from the text after its first
character. -/
def documentMark? (state : Tokens) (token : Token) (rest : List Spot) :
    Option (Rest Spot Tokens (rest.length + 1)) :=
  state.leaveDocument?.map fun state =>
    ⟨state.push token, rest.drop 2, by simp only [List.length_drop]; omega⟩

/-- The characters that may follow a name although they end no word. -/
def endsName (text : List Spot) : Bool :=
  endsWord text ||
    text.head?.any fun s => ['?', ':', ',', ']', '\x7d', '%', '@', '`'].contains s.char

/-- Reads the name of an anchor at `s`, from the text after its mark. -/
def name? (state : Tokens) (s : Spot) (token : String → Token) (rest : List Spot) :
    Option (Rest Spot Tokens (rest.length + 1)) :=
  (state.markKey? s).bind fun state =>
    ((some (name rest)).filter fun name => !name.value.isEmpty && endsName name.rest).map
      (·.map fun name => (state.push (token (String.ofList name))).allowKey false)

/-- Reads a tag at `s`, from the text after its exclamation mark. -/
def tag? (state : Tokens) (s : Spot) (rest : List Spot) :
    Option (Rest Spot Tokens (rest.length + 1)) :=
  (state.markKey? s).bind fun state =>
    (Tag.read? rest).bind fun tag =>
      if endsWord tag.rest || (state.inFlow && startsWith ',' tag.rest) then
        some (tag.map fun (handle, suffix) => (state.push (.tag handle suffix)).allowKey false)
      else none

/-- Reads a block scalar, from the text after its mark. -/
def blockScalar? (state : Tokens) (folded : Bool) (rest : List Spot) :
    Option (Rest Spot Tokens (rest.length + 1)) :=
  state.dropKey?.bind fun state =>
    (Block.scalar? folded state.indents.head? rest).map fun text =>
      text.map fun text => (state.push (.scalar false (String.ofList text))).allowKey true

/-- Reads a quoted scalar at `s`, from the text after its quote. -/
def quotedScalar? (state : Tokens) (s : Spot)
    (scalar? : (text : List Spot) → Option (Rest Spot (List Char) text.length))
    (rest : List Spot) : Option (Rest Spot Tokens (rest.length + 1)) :=
  (state.markKey? s).bind fun state =>
    (scalar? rest).map fun text =>
      (text.map fun text =>
        (state.push (.scalar false (String.ofList text))).allowKey false).later

/-- The characters that begin no plain scalar, or only before some others. -/
def isIndicator (c : Char) : Bool :=
  ['-', '?', ':', ',', '[', ']', '\x7b', '\x7d', '#', '&', '*', '!', '|', '>', '\'', '"', '%', '@',
    '`'].contains c

/-- Whether a plain scalar begins at `s`, which `rest` follows. -/
def startsPlain (inFlow : Bool) (s : Spot) (rest : List Spot) : Bool :=
  (!endsWord [s] && !isIndicator s.char) ||
    (s.char == '-' && !Directive.startsGap rest) ||
    (!inFlow && (s.char == '?' || s.char == ':') && !endsWord rest)

/-- Reads a plain scalar at `s`. After one that goes on to the next line a key may begin. -/
def plainScalar? (state : Tokens) (s : Spot) (rest : List Spot) :
    Option (Rest Spot Tokens (rest.length + 1)) :=
  (state.markKey? s).bind fun state =>
    let indent := (state.indents.head?.map (· + 1)).getD 0
    (Plain.scalar? state.inFlow indent s rest).map fun scalar =>
      scalar.map fun (text, overLines) =>
        (state.push (.scalar true (String.ofList text))).allowKey overLines

/-- Reads the token that starts with the character at `s`, which is the first of a word. -/
def word? (state : Tokens) (s : Spot) (rest : List Spot) :
    Option (Rest Spot Tokens (rest.length + 1)) :=
  let c := s.char
  if c = '[' then (state.openFlow? s .flowSequenceStart).map (before rest)
  else if c = '\x7b' then (state.openFlow? s .flowMappingStart).map (before rest)
  else if c = ']' then (state.closeFlow? .flowSequenceEnd).map (before rest)
  else if c = '\x7d' then (state.closeFlow? .flowMappingEnd).map (before rest)
  else if c = ',' then state.flowEntry?.map (before rest)
  else if c = '-' ∧ endsWord rest then (state.blockEntry? s).map (before rest)
  else if c = '?' ∧ (state.inFlow ∨ endsWord rest) then (state.key? s).map (before rest)
  else if c = ':' ∧ (state.inFlow ∨ endsWord rest) then (state.value? s).map (before rest)
  else if c = '*' then state.name? s .reference rest
  else if c = '&' then state.name? s .anchor rest
  else if c = '!' then state.tag? s rest
  else if c = '|' ∧ !state.inFlow then state.blockScalar? false rest
  else if c = '>' ∧ !state.inFlow then state.blockScalar? true rest
  else if c = '\'' then state.quotedScalar? s Quoted.single? rest
  else if c = '"' then state.quotedScalar? s Quoted.double? rest
  else if startsPlain state.inFlow s rest then state.plainScalar? s rest
  else none

/-- Reads the token at `s`. -/
def next? (state : Tokens) (s : Spot) (rest : List Spot) :
    Option (Rest Spot Tokens (rest.length + 1)) :=
  if s.column = 0 ∧ s.char = '%' then state.directive? rest
  else if marksDocument '-' (s :: rest) then state.documentMark? .documentStart rest
  else if marksDocument '.' (s :: rest) then state.documentMark? .documentEnd rest
  else state.word? s rest

/-- Reads all tokens that are left. -/
def readFrom? (state : Tokens) (text : List Spot) : Option Tokens :=
  let gap := skip state.inFlow state.allowsKey text
  have : gap.2.length ≤ text.length := length_skip_le ..
  match h : gap.2 with
  | [] => state.dedentAll.dropKey?
  | s :: rest =>
    let next := ((state.allowKey gap.1).dropStale? s).bind fun state =>
      (state.dedent s.column).next? s rest
    match next with
    | none => none
    | some next =>
      have := next.shorter
      have : next.rest.length < text.length := by simp_all; omega
      readFrom? next.value next.rest
termination_by text.length

end Tokens

/-- The tokens of a text. -/
def tokens? (text : String) : Option (List Token) :=
  (Tokens.empty.readFrom? (spots text)).map (·.tokens.toList)

end PortalConfig.Yaml
