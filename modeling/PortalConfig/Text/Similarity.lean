/-!
# Similar names

The similarity of two names between 0 and 1, by the measure of Jaro with Winkler's bonus for a
common beginning, and the most similar of several names. Characters match when they are equal and
not too far apart; matched characters in a different order count against the similarity.
-/

namespace PortalConfig.Similarity

/-- How far apart matching characters may stand. -/
def window (a b : List Char) : Nat := max a.length b.length / 2 - 1

/-- The position of the first unused character equal to `c`, among those from `low` up to but not
including `high`. -/
def firstMatch? (c : Char) (low high : Nat) (b : Array Char) (used : List Nat) : Option Nat :=
  (List.range (min high b.size)).find? fun j =>
    decide (low ≤ j) && b[j]? == some c && !used.contains j

/-- Matches the characters of `a`, of which the first stands at position `i`, from left to right.
Gives the matched characters of `a` in order and the matched positions of `b`. -/
def matching (reach : Nat) (b : Array Char) (i : Nat) (used : List Nat) :
    List Char → List Char × List Nat
  | [] => ([], used)
  | c :: rest =>
    match firstMatch? c (i - reach) (i + reach + 1) b used with
    | some j =>
      let (matched, used) := matching reach b (i + 1) (j :: used) rest
      (c :: matched, used)
    | none => matching reach b (i + 1) used rest

/-- The number of positions at which two lists differ. -/
def differences (a b : List Char) : Nat := (a.zip b).countP fun (x, y) => x != y

/-- The measure of Jaro. -/
def jaro (a b : List Char) : Float :=
  if a.isEmpty ∧ b.isEmpty then 1
  else if a.isEmpty ∨ b.isEmpty then 0
  else
    let target := b.toArray
    let (fromA, used) := matching (window a b) target 0 [] a
    let fromB := (List.range target.size).filterMap fun j =>
      if used.contains j then target[j]? else none
    let m := fromA.length
    let t := differences fromA fromB / 2
    if m = 0 then 0
    else
      (m.toFloat / a.length.toFloat + m.toFloat / b.length.toFloat +
        (m - t).toFloat / m.toFloat) / 3

/-- How many characters the two texts have in common at their beginning, at most four. -/
def commonStart (a b : List Char) : Nat :=
  ((a.take 4).zip b).takeWhile (fun (x, y) => x == y) |>.length

/-- The measure with the bonus for a common beginning. -/
def score (a b : List Char) : Float :=
  let plain := jaro a b
  if plain > 0.7 then plain + 0.1 * (commonStart a b).toFloat * (1 - plain) else plain

/-- The least score of a suggestion, itself excluded. -/
def threshold : Float := 0.75

/-- The first of the names with the greatest score above the threshold. -/
def suggest (unknown : String) (names : List String) : Option String :=
  let text := unknown.toList
  (names.foldl (fun (best : Float × Option String) name =>
    let s := score text name.toList
    if s > best.1 then (s, some name) else best) (threshold, none)).2

end PortalConfig.Similarity
