import PortalConfig.Yaml.Spot

/-!
# Block scalars

A block scalar is written on the lines below its mark, all of which are indented alike. A literal
one keeps its line ends; a folded one turns a single line end between two lines into a blank,
unless one of them starts with a blank of its own. The header after the mark says how deep the
lines are indented, which the first of them shows otherwise, and what becomes of the last line
ends.
-/

namespace PortalConfig.Yaml.Block

/-- What becomes of the line ends at the end of a scalar. -/
inductive Chomp
  /-- The first one is kept. -/
  | clip
  /-- All are kept. -/
  | keep
  /-- None is kept. -/
  | strip
deriving DecidableEq

/-- What stays of the end of the last line and of the line ends after it. -/
def Chomp.apply (chomp : Chomp) (lineEnd others : List Char) : List Char :=
  match chomp with
  | clip => lineEnd
  | keep => lineEnd ++ others
  | strip => []

/-- The line that a block scalar begins with. -/
structure Header where
  chomp : Chomp
  /-- How much deeper than its surroundings the scalar is indented. -/
  increment : Option Nat

/-- The sign for the last line ends at the front of a text, and what follows it. -/
def chomp (text : List Spot) : Option Chomp × List Spot :=
  if startsWith '+' text then (some .keep, text.drop 1)
  else if startsWith '-' text then (some .strip, text.drop 1)
  else (none, text)

theorem length_chomp_le (text : List Spot) : (chomp text).2.length ≤ text.length := by
  unfold chomp
  split
  · simp
  · split <;> simp

/-- The digit for the indentation at the front of a text, and what follows it. -/
def increment (text : List Spot) : Option Nat × List Spot :=
  match text.head?.bind (Numeral.digitOf? 10 ·.char) with
  | some digit => (some digit, text.drop 1)
  | none => (none, text)

theorem length_increment_le (text : List Spot) : (increment text).2.length ≤ text.length := by
  unfold increment
  split <;> simp

/-- The header of a scalar, from the text after its mark. Sign and digit come in either order, and
the digit is not zero. -/
def header? (text : List Spot) : Option (Rest Spot Header (text.length + 1)) :=
  let first := chomp text
  have : first.2.length ≤ text.length := length_chomp_le text
  let digit := increment first.2
  have : digit.2.length ≤ first.2.length := length_increment_le first.2
  let last := if first.1.isSome then (first.1, digit.2) else chomp digit.2
  have : last.2.length ≤ digit.2.length := by
    unfold last
    split
    · exact Nat.le_refl _
    · exact length_chomp_le _
  if digit.1 = some 0 then none
  else (afterLine? last.2).map fun line =>
    (line.map fun _ => ⟨last.1.getD .clip, digit.1⟩).widen (by omega)

/-- What stands between two lines of text: empty lines, and how deep the deepest one of them or the
line below is indented. -/
structure Margin where
  lineEnds : List Char
  depth : Nat

/-- The empty lines and the indentation in front of a line. Tabs must not stand in the
indentation, which ends in the column `indent` if that is known. -/
def margin? (indent : Option Nat) (text : List Spot) :
    Option (Rest Spot Margin (text.length + 1)) :=
  let isOutside (s : Spot) : Bool := indent.all (s.column < ·)
  let line := text.dropWhile fun s => s.char == ' ' && isOutside s
  have bound : line.length ≤ text.length := length_dropWhile_le _ text
  match line with
  | [] => some ⟨⟨[], 0⟩, [], by simp⟩
  | s :: rest =>
    have : rest.length + 1 ≤ text.length := bound
    if s.char == '\t' && isOutside s then none
    else if isBreak s.char then
      (margin? indent rest).map fun below =>
        (below.map fun m => ⟨s.char :: m.lineEnds, max s.column m.depth⟩).widen (by omega)
    else some ⟨⟨[], s.column⟩, s :: rest, by simp; omega⟩
termination_by text.length

/-- How the lines of a scalar are read. -/
structure Layout where
  folded : Bool
  chomp : Chomp
  /-- The column in which the lines start. -/
  indent : Nat

/-- The line above the one that is read. -/
structure Above where
  /-- The character that ends it, unless there is no line above. -/
  lineEnd : List Char
  /-- Whether it starts with a blank. -/
  isIndented : Bool
  /-- The ends of the empty lines below it. -/
  others : List Char

/-- What stands between two lines, the lower of which starts with a blank or not. -/
def between (folded : Bool) (above : Above) (isIndented : Bool) : List Char :=
  if folded && above.lineEnd == ['\n'] && !above.isIndented && !isIndented then
    if above.others.isEmpty then [' '] else above.others
  else above.lineEnd ++ above.others

/-- The lines of a scalar from some line on. -/
def lines? (layout : Layout) (above : Above) (text : List Spot) :
    Option (Rest Spot (List Char) (text.length + 1)) :=
  match text with
  | [] => some ⟨layout.chomp.apply above.lineEnd above.others, [], by simp⟩
  | s :: rest =>
    if s.column = layout.indent then
      let line := (s :: rest).takeWhile (!isBreak ·.char)
      let after := skipLine (s :: rest)
      have : after.length ≤ rest.length + 1 := length_skipLine_le (s :: rest)
      match margin? (some layout.indent) (after.drop 1) with
      | none => none
      | some margin =>
        have : margin.rest.length < after.length - 1 + 1 := by simpa using margin.shorter
        have : margin.rest.length ≤ rest.length := by omega
        let above' : Above :=
          ⟨(after.take 1).map (·.char), isGap s.char, margin.value.lineEnds⟩
        (lines? layout above' margin.rest).map fun others =>
          (others.map fun text =>
            between layout.folded above (isGap s.char) ++ line.map (·.char) ++ text).widen
              (by simp only [List.length_cons]; omega)
    else some ⟨layout.chomp.apply above.lineEnd above.others, s :: rest, by simp⟩
termination_by text.length
decreasing_by simp only [List.length_cons]; omega

/-- The scalar from the text after its mark. `parent` is the column of the collection that the
scalar stands in. -/
def scalar? (folded : Bool) (parent : Option Nat) (text : List Spot) :
    Option (Rest Spot (List Char) (text.length + 1)) :=
  match header? text with
  | none => none
  | some header =>
    have := header.shorter
    let given := header.value.increment.map (parent.getD 0 + ·)
    match margin? given header.rest with
    | none => none
    | some margin =>
      have := margin.shorter
      let least := (parent.map (· + 1)).getD 1
      let layout : Layout :=
        ⟨folded, header.value.chomp, given.getD (max margin.value.depth least)⟩
      (lines? layout ⟨[], false, margin.value.lineEnds⟩ margin.rest).map (·.widen (by omega))

end PortalConfig.Yaml.Block
