import PortalConfig.Number.Basic
import PortalConfig.Text.Numeral

/-!
# Reading decimal fractions

`Binary64.read?` reads a decimal numeral with an optional fraction and exponent and gives the
number nearest to it. `Binary64.scaled?` is the quicker reading that documents in JSON are read
by: the leading digits that fit into sixty-four bits, scaled once by a rounded power of ten.
-/

namespace PortalConfig

/-- The parts of a decimal fraction as they are written. -/
structure DecimalText where
  whole : List Char
  fraction : List Char
  exponent : Int

namespace DecimalText

/-- An exponent: a letter `e`, an optional sign and digits. No text at all is the exponent zero. -/
def readExponent? : List Char → Option Int
  | [] => some 0
  | e :: rest =>
    if e = 'e' ∨ e = 'E' then
      match rest with
      | '-' :: digits => (Numeral.readDigits? 10 digits).map fun n => -(n : Int)
      | '+' :: digits => (Numeral.readDigits? 10 digits).map Int.ofNat
      | digits => (Numeral.readDigits? 10 digits).map Int.ofNat
    else none

/-- Splits an unsigned numeral `whole[.fraction][exponent]`. Each part may be empty here. -/
def read? (text : List Char) : Option DecimalText :=
  let whole := text.takeWhile Numeral.isDecimal
  match text.dropWhile Numeral.isDecimal with
  | '.' :: rest =>
    (readExponent? (rest.dropWhile Numeral.isDecimal)).map fun exponent =>
      { whole, fraction := rest.takeWhile Numeral.isDecimal, exponent }
  | rest => (readExponent? rest).map fun exponent => { whole, fraction := [], exponent }

/-- All digits of the numeral as one number. -/
def digits (x : DecimalText) : Nat :=
  (Numeral.appendDigits? 10 0 (x.whole ++ x.fraction)).getD 0

/-- The number nearest to the numeral. -/
def nearest (negative : Bool) (x : DecimalText) : Binary64 :=
  Binary64.ofDecimal negative x.digits (x.exponent - x.fraction.length)

end DecimalText

namespace Binary64

/-- Reads `[sign] digits [. digits] [e [sign] digits]` with at least one digit before the
exponent. The result may be infinite. -/
def read? (text : List Char) : Option Binary64 :=
  let (negative, unsigned) := match text with
    | '-' :: rest => (true, rest)
    | '+' :: rest => (false, rest)
    | rest => (false, rest)
  match DecimalText.read? unsigned with
  | some parts =>
    if parts.whole.isEmpty ∧ parts.fraction.isEmpty then none else some (parts.nearest negative)
  | none => none

/-- Digits taken into a sixty-four bit significand for as long as they fit: the significand, how
many digits were taken, and whether all of them were. -/
def takeDigits (significand taken : Nat) : List Char → Nat × Nat × Bool
  | [] => (significand, taken, true)
  | c :: rest =>
    let next := significand * 10 + (c.toNat - '0'.toNat)
    if next < UInt64.size then takeDigits next (taken + 1) rest else (significand, taken, false)

/-- `10 ^ n`, rounded. -/
def powerOfTen (n : Nat) : Binary64 := ofDecimal false 1 n

/-- Scales a rounded significand of at most twenty digits by a power of ten, at most `10 ^ 308` at
a time when dividing. `none` when the result is too large. -/
def scaleByTen? (value : Binary64) (exponent : Int) : Option Binary64 :=
  if exponent ≥ 0 then
    if value.isZero then some value
    else if exponent > 308 then none
    else
      let product := value.mul (powerOfTen exponent.toNat)
      if product.isInfinite then none else some product
  else
    let n := exponent.natAbs
    if n ≤ 308 then some (value.div (powerOfTen n))
    else if n ≤ 616 then some ((value.div (powerOfTen 308)).div (powerOfTen (n - 308)))
    else some (zero value.isNegative)

/-- The quick reading of a numeral. Digits of the whole part that do not fit into the significand
count as zeros, digits of the fraction that do not fit are ignored. -/
def scaled? (negative : Bool) (parts : DecimalText) : Option Binary64 :=
  let (significand, taken, _) := takeDigits 0 0 parts.whole
  let dropped := parts.whole.length - taken
  let (significand, fractionTaken, _) := takeDigits significand 0 parts.fraction
  let exponent := parts.exponent + dropped - fractionTaken
  (scaleByTen? (ofNat significand) exponent).map fun x => if negative then x.neg else x

end Binary64

end PortalConfig
