import PortalConfig.Yaml.Scalar.Fold

/-!
# Plain scalars

A plain scalar goes on over several lines for as long as these are indented deeply enough. It ends
before a colon that a blank follows, before a comment and, between brackets, before any bracket or
comma.
-/

namespace PortalConfig.Yaml.Plain

/-- The characters that end a plain scalar between brackets. -/
def isFlowMark (c : Char) : Bool :=
  c == ',' || c == '[' || c == ']' || c == '\x7b' || c == '\x7d'

/-- Whether a word ends before the character `s`, which `rest` follows. -/
def endsBefore (inFlow : Bool) (s : Spot) (rest : List Spot) : Bool :=
  isGap s.char || isBreak s.char || (s.char == ':' && endsWord rest) ||
    (inFlow && isFlowMark s.char)

/-- Whether `s` is a colon that must not stand there: between brackets and right before a mark. -/
def isMisplaced (inFlow : Bool) (s : Spot) (rest : List Spot) : Bool :=
  inFlow && s.char == ':' &&
    match rest with
    | next :: _ => isFlowMark next.char || next.char == '?'
    | [] => false

/-- A word that starts with `s`. -/
def word? (inFlow : Bool) (s : Spot) (rest : List Spot) :
    Option (Rest Spot (List Char) (rest.length + 1)) :=
  if isMisplaced inFlow s rest then none
  else
    match rest with
    | [] => some ⟨[s.char], [], by simp⟩
    | next :: more =>
      if endsBefore inFlow next more then some ⟨[s.char], next :: more, by simp⟩
      else (word? inFlow next more).map fun word => (word.map (s.char :: ·)).widen (by simp)

/-- Whether the text starts in a column before `indent`. -/
def isOutdented (indent : Nat) : List Spot → Bool
  | s :: _ => decide (s.column < indent)
  | [] => true

/-- What is left of a scalar after a word and the white space `fold`, and whether the white space
after its last word goes over the end of a line. -/
def tail? (inFlow : Bool) (indent : Nat) (fold : Fold) (text : List Spot) :
    Option (Rest Spot (List Char × Bool) (text.length + 1)) :=
  match text with
  | [] => some ⟨([], fold.isLines), [], by simp⟩
  | s :: rest =>
    if isDocumentMark (s :: rest) || s.char == '#' || endsBefore inFlow s rest then
      some ⟨([], fold.isLines), s :: rest, by simp⟩
    else
      match word? inFlow s rest with
      | none => none
      | some word =>
        have := word.shorter
        match Fold.read? indent .none word.rest with
        | none => none
        | some next =>
          have := next.shorter
          if next.value = .none ∨ (!inFlow && isOutdented indent next.rest) then
            some ⟨(fold.text ++ word.value, next.value.isLines), next.rest, by simp; omega⟩
          else
            (tail? inFlow indent next.value next.rest).map fun others =>
              (others.map fun (text, lines) => (fold.text ++ word.value ++ text, lines)).widen
                (by simp; omega)
termination_by text.length

/-- The plain scalar at the front of a text, and whether the white space after it goes over the end
of a line. -/
def scalar? (inFlow : Bool) (indent : Nat) (s : Spot) (rest : List Spot) :
    Option (Rest Spot (List Char × Bool) (rest.length + 1)) :=
  match word? inFlow s rest with
  | none => none
  | some word =>
    have := word.shorter
    match Fold.read? indent .none word.rest with
    | none => none
    | some next =>
      have := next.shorter
      if next.value = .none ∨ (!inFlow && isOutdented indent next.rest) then
        some ⟨(word.value, next.value.isLines), next.rest, by omega⟩
      else
        (tail? inFlow indent next.value next.rest).map fun others =>
          (others.map fun (text, lines) => (word.value ++ text, lines)).widen (by omega)

end PortalConfig.Yaml.Plain
