import PortalConfig.Time.Instant
import PortalConfig.Text.Blank

/-!
# Reading timestamps

A timestamp is a date and time with an offset from universal time in the internet format, a date
and time without one, which is taken as universal time, or a date, which means its midnight. The
internet format has numbers of fixed width; the other formats allow fewer digits, white space
before a number and a signed year of any length.
-/

namespace PortalConfig.Timestamp

/-- A reading from the front of a text. -/
abbrev Reader := StateT (List Char) Option

/-- From `least` to `most` decimal digits, as many as there are. -/
def number (least most : Nat) : Reader Nat := fun text =>
  let digits := (text.take most).takeWhile Numeral.isDecimal
  let value := (Numeral.appendDigits? 10 0 digits).getD 0
  if digits.length < least ∨ Nat.pow 2 63 ≤ value then none
  else some (value, text.drop digits.length)

/-- This very character. -/
def literal (c : Char) : Reader Unit
  | d :: rest => if d = c then some ((), rest) else none
  | [] => none

/-- One of these characters. -/
def oneOf (cs : List Char) : Reader Char
  | d :: rest => if cs.contains d then some (d, rest) else none
  | [] => none

/-- White space, maybe none. -/
def blanks : Reader Unit := fun text => some ((), Text.trimStart text)

/-- The end of the text. -/
def finished : Reader Unit
  | [] => some ((), [])
  | _ => none

/-- The digits of a fraction of a second, in nanoseconds; those after the ninth are dropped. -/
def fractionDigits : Reader Nat := fun text =>
  let digits := text.takeWhile Numeral.isDecimal
  let kept := digits.take 9
  if kept.isEmpty then none
  else
    let value := (Numeral.appendDigits? 10 0 kept).getD 0
    some (value * Nat.pow 10 (9 - kept.length), text.drop digits.length)

/-- A fraction of a second after a point, or nothing. -/
def fraction : Reader Nat := fun text =>
  match text with
  | '.' :: rest => fractionDigits rest
  | _ => some (0, text)

/-- An offset of at most 23:59, in seconds. The minus may be the minus sign U+2212. -/
def offset : Reader Int := do
  let sign ← oneOf ['Z', 'z', '+', '-', '\u2212']
  if sign = 'Z' ∨ sign = 'z' then return 0
  let hours ← number 2 2
  literal ':'
  let minutes ← number 2 2
  guard (hours < 24 ∧ minutes < 60)
  let seconds : Int := hours * 3600 + minutes * 60
  return if sign = '+' then seconds else -seconds

/-- The internet format `2024-01-15T10:30:00.5+01:00`. -/
def internet : Reader Instant := do
  let year ← number 4 4
  literal '-'
  let month ← number 2 2
  literal '-'
  let day ← number 2 2
  let _ ← oneOf ['T', 't', ' ']
  let hour ← number 2 2
  literal ':'
  let minute ← number 2 2
  literal ':'
  let second ← number 2 2
  let nanos ← fraction
  let offset ← offset
  finished
  let date ← StateT.lift (CivilDate.ofNumbers? year month day)
  let time ← StateT.lift (TimeOfDay.ofNumbers? hour minute second nanos)
  return .ofLocal date time offset

/-- A number of at most two digits. -/
def shortNumber : Reader Nat := do
  blanks
  number 1 2

/-- A year: at most four digits, or a sign and any number of them. -/
def year : Reader Int := do
  blanks
  fun text => match text with
    | '-' :: rest => (number 1 rest.length rest).map fun (n, rest) => (-(n : Int), rest)
    | '+' :: rest => (number 1 rest.length rest).map fun (n, rest) => ((n : Int), rest)
    | _ => (number 1 4 text).map fun (n, rest) => ((n : Int), rest)

/-- A date `2024-1-5`. -/
def date : Reader CivilDate := do
  let year ← year
  literal '-'
  let month ← shortNumber
  literal '-'
  let day ← shortNumber
  StateT.lift (CivilDate.ofNumbers? year month day)

/-- A time `10:30:00.5`. -/
def time : Reader TimeOfDay := do
  let hour ← shortNumber
  literal ':'
  let minute ← shortNumber
  literal ':'
  let second ← shortNumber
  let nanos ← fraction
  StateT.lift (TimeOfDay.ofNumbers? hour minute second nanos)

/-- A date and a time with `separator` between them, in universal time. -/
def dateTime (separator : Reader Unit) : Reader Instant := do
  let date ← date
  separator
  let time ← time
  finished
  return .ofLocal date time 0

/-- A date alone. -/
def dateOnly : Reader Instant := do
  let date ← date
  finished
  return .ofLocal date .midnight 0

/-- Reads a timestamp, white space at its ends aside. -/
def read? (raw : String) : Option Instant :=
  let text := Text.trim raw.toList
  [internet, dateTime (literal 'T'), dateTime blanks, dateOnly].findSome? fun format =>
    (format text).map Prod.fst

end PortalConfig.Timestamp
