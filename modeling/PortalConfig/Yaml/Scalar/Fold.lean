import PortalConfig.Yaml.Spot

/-!
# Folding of lines

In plain and quoted scalars the white space between two words is folded: blanks within a line stay,
a single line end becomes a blank, and of several line ends the first one goes. A line separator
that comes first stays instead.
-/

namespace PortalConfig.Yaml

/-- White space between words. -/
inductive Fold
  /-- Blanks within a line. -/
  | blanks (text : List Char)
  /-- Line ends: the first one, unless it was escaped, and the others. -/
  | lines (first : Option Char) (others : List Char)
deriving DecidableEq

namespace Fold

/-- No white space. -/
def none : Fold := .blanks []

/-- Whether the white space goes over the end of a line. -/
def isLines : Fold → Bool
  | blanks _ => false
  | lines _ _ => true

/-- What the white space reads as. -/
def text : Fold → List Char
  | blanks text => text
  | lines (some '\n') [] => [' ']
  | lines (some '\n') others => others
  | lines first others => first.toList ++ others

/-- The white space with one more character. Blanks at the beginning of a line do not count. -/
def push (fold : Fold) (c : Char) : Fold :=
  match fold, isBreak c with
  | blanks text, false => blanks (text ++ [c])
  | blanks _, true => lines (some c) []
  | lines first others, false => lines first others
  | lines first others, true => lines first (others ++ [c])

/-- Reads white space that goes on from `fold`. At the beginning of a line, tabs must not stand
before the column `indent`. -/
def read? (indent : Nat) (fold : Fold) (text : List Spot) :
    Option (Rest Spot Fold (text.length + 1)) :=
  match text with
  | [] => some ⟨fold, [], by simp⟩
  | s :: rest =>
    if isGap s.char || isBreak s.char then
      if fold.isLines && s.char == '\t' && decide (s.column < indent) then .none
      else (read? indent (fold.push s.char) rest).map (·.widen (by simp))
    else some ⟨fold, s :: rest, by simp⟩

end Fold

end PortalConfig.Yaml
