import PortalConfig.Number.Binary64

/-!
# The shortest decimal that reads back

The reals that round to a finite number form an interval around it. `shortestDecimal` tries the
decimal grids of one, two, … seventeen digits in turn; the first grid with a point inside the
interval wins, and of two such points the one nearer to the number. Seventeen digits always
suffice.
-/

namespace PortalConfig

/-- `digits * 10 ^ exponent`. -/
structure Decimal where
  digits : Nat
  exponent : Int
deriving DecidableEq

namespace Decimal

/-- Strikes up to `limit` zeros from the end of the digits. -/
def trimZeros (limit : Nat) (x : Decimal) : Decimal :=
  match limit with
  | 0 => x
  | limit + 1 =>
    if x.digits % 10 = 0 then trimZeros limit ⟨x.digits / 10, x.exponent + 1⟩ else x

/-- The exponent of the leading digit of `num / den`. -/
def leadingExponent (num den : Nat) : Int :=
  if den ≤ num then (Nat.toDigits 10 (num / den)).length - 1
  else
    let size := (Nat.toDigits 10 (den / num)).length
    if den = num * Nat.pow 10 (size - 1) then 1 - size else -size

end Decimal

/-- What happens to a number halfway between two decimals of the same length. -/
inductive Tie
  | toEven
  | up
deriving DecidableEq

namespace Binary64

/-- The interval of reals that round to a positive finite number, over a common denominator. -/
structure Interval where
  low : Nat
  value : Nat
  high : Nat
  den : Nat
  /-- Whether the ends themselves round to the number. -/
  closed : Bool

/-- The interval of a number: half way to each neighbour, where the lower neighbour of a power of
two is only half as far away. -/
def interval (x : Binary64) : Interval :=
  let m := x.significand
  let q := x.exponent - 2
  let up := Nat.pow 2 q.toNat
  { low := (4 * m - if m = Nat.pow 2 52 ∧ x.exponent > -1074 then 1 else 2) * up
    value := 4 * m * up
    high := (4 * m + 2) * up
    den := Nat.pow 2 (-q).toNat
    closed := m % 2 = 0 }

/-- The point of the grid of spacing `10 ^ exponent` inside the interval that is nearest to the
value, if there is one. -/
def Interval.nearest? (i : Interval) (tie : Tie) (exponent : Int) : Option Decimal :=
  let up := Nat.pow 10 (-exponent).toNat
  let unit := i.den * Nat.pow 10 exponent.toNat
  let value := i.value * up
  let inside (c : Nat) : Bool :=
    if i.closed then i.low * up ≤ c * unit ∧ c * unit ≤ i.high * up
    else i.low * up < c * unit ∧ c * unit < i.high * up
  let below := value / unit
  let above := below + 1
  let twice := 2 * (value % unit)
  let aboveNearer := unit < twice ∨ (twice = unit ∧ (tie = .up ∨ below % 2 = 1))
  match inside below, inside above with
  | true, true => some ⟨if aboveNearer then above else below, exponent⟩
  | true, false => some ⟨below, exponent⟩
  | false, true => some ⟨above, exponent⟩
  | false, false => none

/-- The shortest decimal that reads back as a positive finite number. -/
def shortestDecimal (x : Binary64) (tie : Tie) : Decimal :=
  let i := x.interval
  let top := Decimal.leadingExponent i.value i.den
  let found := (List.range 17).findSome? fun (n : Nat) => i.nearest? tie (top - n)
  (found.getD ⟨i.value / i.den, 0⟩).trimZeros 20

end Binary64

end PortalConfig
