import PortalConfig.Number.Reading
import PortalConfig.Time.Calendar
import PortalConfig.Toml.Value

/-!
# Numbers, truth values, dates and times of TOML documents

All of these are single words. The digits of a number may be grouped by single underscores, and a
decimal number has no leading zero. Dates and times are checked against the calendar and the clock
and kept as they are written.
-/

namespace PortalConfig.Toml

/-- What follows a character that has to be there. -/
def afterChar? (c : Char) : List Char → Option (List Char)
  | d :: rest => if d = c then some rest else none
  | [] => none

/-- Two digits that make a number up to `most`, and what follows them. -/
def twoDigits? (most : Nat) : List Char → Option (Nat × List Char)
  | a :: b :: rest =>
    ((Numeral.readDigits? 10 [a, b]).filter (· ≤ most)).map fun n => (n, rest)
  | _ => none

/-- What follows a fraction of a second, which may be missing. -/
def afterFraction? : List Char → Option (List Char)
  | '.' :: rest =>
    if (rest.takeWhile Numeral.isDecimal).isEmpty then none
    else some (rest.dropWhile Numeral.isDecimal)
  | text => some text

/-- What follows a time of day. -/
def afterTime? (text : List Char) : Option (List Char) := do
  let (_, rest) ← twoDigits? 23 text
  let (_, rest) ← twoDigits? 59 (← afterChar? ':' rest)
  let (_, rest) ← twoDigits? 60 (← afterChar? ':' rest)
  afterFraction? rest

/-- What follows a date of the calendar. -/
def afterDate? (text : List Char) : Option (List Char) := do
  guard (4 ≤ text.length)
  let year ← Numeral.readDigits? 10 (text.take 4)
  let (month, rest) ← twoDigits? 12 (← afterChar? '-' (text.drop 4))
  let (day, rest) ← twoDigits? 31 (← afterChar? '-' rest)
  let _ ← CivilDate.ofNumbers? year month day
  return rest

/-- Whether a text is an offset from universal time, which may be missing. -/
def isOffset : List Char → Bool
  | [] => true
  | ['Z'] => true
  | ['z'] => true
  | sign :: rest => (sign == '+' || sign == '-') &&
    ((twoDigits? 23 rest).bind fun (_, rest) =>
      (afterChar? ':' rest).bind fun rest => twoDigits? 59 rest).map Prod.snd == some []

/-- Whether a word is a time of day with an offset from universal time. -/
def isOffsetTime (word : List Char) : Bool :=
  match afterTime? word with
  | some rest => isOffset rest
  | none => false

/-- Whether a word is a date, and nothing else. -/
def isDate (word : List Char) : Bool := afterDate? word == some []

/-- Whether a word is a date, a time, or both with a letter between them. -/
def isDatetime (word : List Char) : Bool :=
  afterTime? word == some [] ||
    match afterDate? word with
    | some [] => true
    | some (c :: rest) => (c == 'T' || c == 't') && isOffsetTime rest
    | none => false

/-- The digits of a numeral without the underscores that group them. -/
def ungrouped? (isDigit : Char → Bool) : List Char → Option (List Char)
  | [] => none
  | [d] => if isDigit d then some [d] else none
  | d :: '_' :: rest =>
    if isDigit d then (ungrouped? isDigit rest).map (d :: ·) else none
  | d :: rest => if isDigit d then (ungrouped? isDigit rest).map (d :: ·) else none

/-- The digits of a decimal numeral. Only a lone zero starts with one. -/
def decimalDigits? (text : List Char) : Option (List Char) :=
  (ungrouped? Numeral.isDecimal text).filter fun digits =>
    digits.head? != some '0' || digits.length == 1

/-- A sign, if there is one, and what follows it. -/
def splitSign : List Char → Bool × List Char
  | '-' :: rest => (true, rest)
  | '+' :: rest => (false, rest)
  | rest => (false, rest)

/-- An integer of sixty-four bits in a base other than ten. -/
def basedInteger? (base : Nat) (text : List Char) : Option Int := do
  let digits ← ungrouped? Numeral.isHexadecimal text
  let n ← Numeral.readDigits? base digits
  guard (n < Nat.pow 2 63)
  return n

/-- An integer of sixty-four bits. -/
def integer? : List Char → Option Int
  | '0' :: 'x' :: rest => basedInteger? 16 rest
  | '0' :: 'o' :: rest => basedInteger? 8 rest
  | '0' :: 'b' :: rest => basedInteger? 2 rest
  | word => do
    let (negative, digits) := splitSign word
    let n ← Numeral.readDigits? 10 (← decimalDigits? digits)
    let value : Int := if negative then -(n : Int) else n
    guard (Int64.minValue.toInt ≤ value ∧ value ≤ Int64.maxValue.toInt)
    return value

/-- Whether a character may stand in a group of digits. -/
def isGrouped (c : Char) : Bool := Numeral.isDecimal c || c == '_'

/-- An exponent, the letter `e` included. -/
def exponent? : List Char → Option Int
  | e :: rest => do
    guard (e == 'e' || e == 'E')
    let (negative, digits) := splitSign rest
    let n ← Numeral.readDigits? 10 (← ungrouped? Numeral.isDecimal digits)
    return if negative then -(n : Int) else n
  | [] => none

/-- The parts of a number with a fraction or an exponent. -/
def fractional? (text : List Char) : Option DecimalText := do
  let whole ← decimalDigits? (text.takeWhile isGrouped)
  match text.dropWhile isGrouped with
  | '.' :: rest =>
    let fraction ← ungrouped? Numeral.isDecimal (rest.takeWhile isGrouped)
    match rest.dropWhile isGrouped with
    | [] => return { whole, fraction, exponent := 0 }
    | rest => return { whole, fraction, exponent := ← exponent? rest }
  | rest => return { whole, fraction := [], exponent := ← exponent? rest }

/-- A floating-point number. One that is too large above zero is refused. -/
def float? (word : List Char) : Option Binary64 :=
  let (negative, unsigned) := splitSign word
  if unsigned = "inf".toList then some (.infinity negative)
  else if unsigned = "nan".toList then some .nan
  else ((fractional? unsigned).map (·.nearest negative)).filter (· != .infinity false)

/-- The characters of words. -/
def isWordChar (c : Char) : Bool :=
  c.isAlphanum || c == '+' || c == '-' || c == '.' || c == '_' || c == ':'

/-- The value that a word stands for. -/
def scalar? (word : List Char) : Option Value :=
  if word = "true".toList then some (.boolean true)
  else if word = "false".toList then some (.boolean false)
  else if isDatetime word then some (.datetime (String.ofList word))
  else ((integer? word).map .integer).or ((float? word).map .float)

end PortalConfig.Toml
