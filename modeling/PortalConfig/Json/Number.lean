import PortalConfig.Number.Reading

/-!
# JSON numerals

A numeral without fraction and exponent is an integer if it fits into sixty-four bits, signed or
unsigned; everything else is a floating-point number, minus zero included. One that is too large
for a floating-point number is refused.
-/

namespace PortalConfig.Json

/-- Whether the digits before the point are well formed: at least one, and no leading zero. -/
def wholeDigitsAllowed : List Char → Bool
  | [] => false
  | ['0'] => true
  | '0' :: _ => false
  | _ => true

/-- The number written by a numeral without its sign. -/
def unsignedNumber? (negative : Bool) (text : List Char) : Option Number := do
  let parts ← DecimalText.read? text
  guard (wholeDigitsAllowed parts.whole)
  guard (!(text.contains '.' && parts.fraction.isEmpty))
  if text.all Numeral.isDecimal then
    let n := parts.digits
    if negative && 0 < n && n ≤ Nat.pow 2 63 then return .int (-(n : Int))
    if !negative && n < UInt64.size then return .int n
  let value ← Binary64.scaled? negative parts
  return .float value

/-- The number written by a numeral. -/
def number? : List Char → Option Number
  | '-' :: digits => unsignedNumber? true digits
  | digits => unsignedNumber? false digits

end PortalConfig.Json
