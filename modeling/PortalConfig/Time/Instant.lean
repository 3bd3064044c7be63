import PortalConfig.Time.Calendar
import PortalConfig.Text.Numeral

/-!
# Instants

An instant is a count of seconds since 1970-01-01T00:00:00Z and a fraction in nanoseconds. The
inserted sixtieth second of a minute is its fifty-ninth with a fraction of a second or more.
`Instant.iso` writes an instant with milliseconds, in universal time.
-/

namespace PortalConfig

/-- The time of day, the seconds from 0 to 59 and the nanoseconds below `2 * 1000000000`. -/
structure TimeOfDay where
  hour : Nat
  minute : Nat
  second : Nat
  nanos : Nat
deriving DecidableEq

/-- An instant. -/
structure Instant where
  seconds : Int
  nanos : Nat
deriving DecidableEq

namespace TimeOfDay

def midnight : TimeOfDay := ⟨0, 0, 0, 0⟩

/-- The time with these numbers, if there is one; the second may be 60. -/
def ofNumbers? (hour minute second nanos : Nat) : Option TimeOfDay :=
  if hour < 24 ∧ minute < 60 ∧ nanos < 1000000000 then
    if second < 60 then some ⟨hour, minute, second, nanos⟩
    else if second = 60 then some ⟨hour, minute, 59, 1000000000 + nanos⟩
    else none
  else none

/-- The whole seconds since midnight. -/
def toSeconds (time : TimeOfDay) : Nat := time.hour * 3600 + time.minute * 60 + time.second

end TimeOfDay

namespace Instant

/-- The instant at which a clock that is `offset` seconds ahead of universal time shows a date and
a time. -/
def ofLocal (date : CivilDate) (time : TimeOfDay) (offset : Int) : Instant :=
  ⟨date.toDays * 86400 + time.toSeconds - offset, time.nanos⟩

/-- A number in at least `width` digits. -/
def padded (width n : Nat) : List Char :=
  let digits := Nat.toDigits 10 n
  List.replicate (width - digits.length) '0' ++ digits

/-- A year in four digits, with a sign when four digits without one do not do. -/
def yearText (year : Int) : List Char :=
  if 0 ≤ year ∧ year ≤ 9999 then padded 4 year.natAbs
  else (if year < 0 then '-' else '+') :: padded 4 year.natAbs

/-- The written form `2024-01-15T10:30:00.000Z`. -/
def iso (instant : Instant) : String :=
  let days := instant.seconds / 86400
  let second := (instant.seconds - days * 86400).toNat
  let date := CivilDate.ofDays days
  let shownSecond := second % 60 + instant.nanos / 1000000000
  String.ofList (yearText date.year ++ '-' :: padded 2 date.month ++ '-' :: padded 2 date.day ++
    'T' :: padded 2 (second / 3600) ++ ':' :: padded 2 (second / 60 % 60) ++
    ':' :: padded 2 shownSecond ++ '.' :: padded 3 (instant.nanos % 1000000000 / 1000000) ++ ['Z'])

end Instant

end PortalConfig
