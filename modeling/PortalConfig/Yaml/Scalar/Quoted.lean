import PortalConfig.Text.Surrogates
import PortalConfig.Yaml.Scalar.Fold

/-!
# Quoted scalars

A scalar between apostrophes writes an apostrophe twice and has no escapes; one between quotes has
escapes, also of line ends. White space in either is folded. Neither may run over the mark of a
document.
-/

namespace PortalConfig.Yaml.Quoted

/-- The character that a letter after the backslash stands for. -/
def simpleEscape? (c : Char) : Option Char :=
  if c = '0' then some '\x00'
  else if c = 'a' then some '\x07'
  else if c = 'b' then some '\x08'
  else if c = 't' ∨ c = '\t' then some '\t'
  else if c = 'n' then some '\n'
  else if c = 'v' then some '\x0b'
  else if c = 'f' then some '\x0c'
  else if c = 'r' then some '\r'
  else if c = 'e' then some '\x1b'
  else if c = ' ' ∨ c = '"' ∨ c = '/' ∨ c = '\\' then some c
  else if c = 'N' then some '\x85'
  else if c = '_' then some '\xa0'
  else if c = 'L' then some '\u2028'
  else if c = 'P' then some '\u2029'
  else none

/-- How many digits follow a letter after the backslash. -/
def digitCount? (c : Char) : Option Nat :=
  if c = 'x' then some 2 else if c = 'u' then some 4 else if c = 'U' then some 8 else none

/-- The character that an escape stands for, from the text after the backslash. -/
def escape? : (text : List Spot) → Option (Rest Spot Char text.length)
  | [] => none
  | s :: rest =>
    match digitCount? s.char with
    | some count => (hexadecimal? count rest).bind fun digits =>
        (Text.character? digits.value).map fun c => (digits.map fun _ => c).widen (by simp)
    | none => (simpleEscape? s.char).map fun c => ⟨c, rest, by simp⟩

/-- The scalar from the text after its apostrophe. -/
def single? (text : List Spot) : Option (Rest Spot (List Char) text.length) :=
  match text with
  | [] => none
  | s :: rest =>
    if isDocumentMark (s :: rest) then none
    else if isGap s.char || isBreak s.char then
      match Fold.read? 0 (Fold.none.push s.char) rest with
      | none => none
      | some fold =>
        have := fold.shorter
        (single? fold.rest).map fun body => (body.map (fold.value.text ++ ·)).widen (by simp; omega)
    else if s.char = '\'' then
      match here? '\'' (rest.map (·.char)) with
      | some _ =>
        (single? (rest.drop 1)).map fun body => (body.map ('\'' :: ·)).widen (by simp; omega)
      | none => some ⟨[], rest, by simp⟩
    else (single? rest).map fun body => (body.map (s.char :: ·)).widen (by simp)
termination_by text.length

/-- The scalar from the text after its quote. -/
def double? (text : List Spot) : Option (Rest Spot (List Char) text.length) :=
  match text with
  | [] => none
  | s :: rest =>
    if isDocumentMark (s :: rest) then none
    else if isGap s.char || isBreak s.char then
      match Fold.read? 0 (Fold.none.push s.char) rest with
      | none => none
      | some fold =>
        have := fold.shorter
        (double? fold.rest).map fun body => (body.map (fold.value.text ++ ·)).widen (by simp; omega)
    else if s.char = '"' then some ⟨[], rest, by simp⟩
    else if s.char = '\\' then
      if rest.head?.any (isBreak ·.char) then
        match Fold.read? 0 (.lines none []) (rest.drop 1) with
        | none => none
        | some fold =>
          have := fold.shorter
          have : (rest.drop 1).length ≤ rest.length := by simp
          (double? fold.rest).map fun body =>
            (body.map (fold.value.text ++ ·)).widen (by simp; omega)
      else
        match escape? rest with
        | none => none
        | some escaped =>
          have := escaped.shorter
          (double? escaped.rest).map fun body =>
            (body.map (escaped.value :: ·)).widen (by simp; omega)
    else (double? rest).map fun body => (body.map (s.char :: ·)).widen (by simp)
termination_by text.length

end PortalConfig.Yaml.Quoted
