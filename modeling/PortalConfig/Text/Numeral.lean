/-!
# Numerals

Whole numbers as text: `numeral` writes one in decimal, `readDigits?` reads the digits of any base
up to sixteen, and the two `read…?` functions add the signs and the range that a numeral in a
document, a path or an environment variable may have.
-/

namespace PortalConfig

/-- The decimal digits of a number. -/
def numeral (n : Nat) : String := String.ofList (Nat.toDigits 10 n)

/-- The decimal digits of an integer, after a minus sign when it is negative. -/
def signedNumeral (n : Int) : String :=
  if n < 0 then "-" ++ numeral n.natAbs else numeral n.natAbs

namespace Numeral

/-- The value of a digit below sixteen, in either letter case. -/
def digitValue? (c : Char) : Option Nat :=
  if '0' ≤ c ∧ c ≤ '9' then some (c.toNat - '0'.toNat)
  else if 'a' ≤ c ∧ c ≤ 'f' then some (c.toNat - 'a'.toNat + 10)
  else if 'A' ≤ c ∧ c ≤ 'F' then some (c.toNat - 'A'.toNat + 10)
  else none

/-- The value of a digit of a base. -/
def digitOf? (base : Nat) (c : Char) : Option Nat :=
  (digitValue? c).filter (· < base)

/-- Appends digits to a number; `none` at the first character that is no digit of the base. -/
def appendDigits? (base : Nat) (value : Nat) : List Char → Option Nat
  | [] => some value
  | c :: rest => (digitOf? base c).bind fun d => appendDigits? base (value * base + d) rest

/-- The value of a non-empty run of digits. -/
def readDigits? (base : Nat) : List Char → Option Nat
  | [] => none
  | text => appendDigits? base 0 text

/-- A numeral below `limit`, with or without a plus sign. -/
def readUnsigned? (base limit : Nat) : List Char → Option Nat
  | '+' :: digits => (readDigits? base digits).filter (· < limit)
  | digits => (readDigits? base digits).filter (· < limit)

/-- A numeral from `-limit` to `limit - 1`, with or without a sign. -/
def readSigned? (base limit : Nat) : List Char → Option Int
  | '-' :: digits => (readDigits? base digits).bind fun n =>
      if n ≤ limit then some (-(n : Int)) else none
  | digits => (readUnsigned? base limit digits).map Int.ofNat

/-- Whether a character is a decimal digit. -/
def isDecimal (c : Char) : Bool := '0' ≤ c ∧ c ≤ '9'

/-- Whether a character is a hexadecimal digit. -/
def isHexadecimal (c : Char) : Bool := (digitValue? c).isSome

end Numeral

end PortalConfig
