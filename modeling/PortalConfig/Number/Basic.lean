import PortalConfig.Number.Shortest
import PortalConfig.Text.Numeral

/-!
# Numbers of a document

A number is an integer or a floating-point number, and stays what it was written as: `1.0` is not
the integer `1`. Floating-point numbers are written with the fewest digits that read back.
-/

namespace PortalConfig

/-- Where the written form of a floating-point number goes over to an exponent. -/
structure FloatFormat where
  /-- The least exponent of the leading digit that is written without an exponent. -/
  leastPlain : Int
  /-- The greatest such exponent. -/
  greatestPlain : Int

/-- Documents write `0.00001` and `1000000000000000.0` in full, `1e-6` and `1e+16` not. -/
def FloatFormat.document : FloatFormat := ⟨-5, 15⟩

namespace Decimal

/-- The exponent of the first digit. -/
def leading (x : Decimal) : Int := (Nat.toDigits 10 x.digits).length - 1 + x.exponent

/-- The digits before the decimal point (at least `0`) and those after it (maybe none). -/
def plainParts (x : Decimal) : List Char × List Char :=
  let digits := Nat.toDigits 10 x.digits
  if x.exponent ≥ 0 then (digits ++ List.replicate x.exponent.toNat '0', [])
  else if x.leading ≥ 0 then digits.splitAt (x.leading + 1).toNat
  else (['0'], List.replicate (-x.leading - 1).toNat '0' ++ digits)

/-- The digits as `d.ddd`, a signed exponent after them. -/
def scientific (x : Decimal) : List Char :=
  let sign := if x.leading < 0 then '-' else '+'
  let power := 'e' :: sign :: Nat.toDigits 10 x.leading.natAbs
  match Nat.toDigits 10 x.digits with
  | [] => power
  | [d] => d :: power
  | d :: rest => d :: '.' :: rest ++ power

end Decimal

namespace Binary64

/-- The minus sign of a negative number. -/
def signText (x : Binary64) : List Char := if x.isNegative then ['-'] else []

/-- The form in which a document writes a finite number: always with a fraction or an exponent. -/
def text (x : Binary64) : String :=
  if x.isZero then String.ofList (x.signText ++ "0.0".toList)
  else
    let shortest := x.shortestDecimal .toEven
    let format := FloatFormat.document
    if format.leastPlain ≤ shortest.leading ∧ shortest.leading ≤ format.greatestPlain then
      let (whole, fraction) := shortest.plainParts
      String.ofList (x.signText ++ whole ++ '.' :: if fraction.isEmpty then ['0'] else fraction)
    else String.ofList (x.signText ++ shortest.scientific)

/-- The form in which a message names a number: never with an exponent, and whole numbers without
a fraction. -/
def plainText (x : Binary64) : String :=
  if x.isZero then String.ofList (x.signText ++ ['0'])
  else if x.isFinite then
    let (whole, fraction) := (x.shortestDecimal .up).plainParts
    String.ofList (x.signText ++ whole ++ if fraction.isEmpty then [] else '.' :: fraction)
  else if x.isInfinite then String.ofList (x.signText ++ "inf".toList)
  else "NaN"

end Binary64

/-- A number of a document. Documents read from text hold integers from `-2 ^ 63` to
`2 ^ 64 - 1` and finite floating-point numbers. -/
inductive Number
  | int (value : Int)
  | float (value : Binary64)
deriving DecidableEq

namespace Number

/-- Whether the number is zero. -/
def isZero : Number → Bool
  | .int n => n == 0
  | .float x => x.isZero

/-- Equality of numbers. An integer never equals a floating-point number. -/
def equal : Number → Number → Bool
  | .int a, .int b => a == b
  | .float a, .float b => a.equal b
  | _, _ => false

/-- The written form. -/
def text : Number → String
  | .int n => signedNumeral n
  | .float x => x.text

/-- The integers that a document can hold. -/
def integerInRange (n : Int) : Bool := decide (Int64.minValue.toInt ≤ n ∧ n < UInt64.size)

end Number

end PortalConfig
