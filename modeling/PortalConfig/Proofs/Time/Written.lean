import PortalConfig.Proofs.Numeral
import PortalConfig.Proofs.Time.Calendar
import PortalConfig.Proofs.Time.Reading

/-!
# The order of written instants

Within a year, the written forms of instants are in the order of the instants: all numbers after
the year have a fixed width, and a later instant has later ones (`Instant.numbers_not_lt`). Instants
of different years are in the order of their years as these are written
(`Instant.iso_lt_iso_iff`). The years from 0 to 9999 and the negative ones before them are written in
order. The years after 9999 begin with a plus sign and come before all of these, and negative years
of four digits come in reverse.
-/

namespace PortalConfig

namespace Instant

/-- Earlier, and for the fractions of the same second, by the fraction. -/
def Before (instant other : Instant) : Prop :=
  instant.seconds < other.seconds ∨
    instant.seconds = other.seconds ∧ instant.nanos < other.nanos

/-- The date of an instant, in universal time. -/
def date (instant : Instant) : CivilDate := CivilDate.ofDays (instant.seconds / 86400)

/-- The seconds since midnight, in universal time. -/
def secondOfDay (instant : Instant) : Nat :=
  (instant.seconds - instant.seconds / 86400 * 86400).toNat

/-! ## Numbers of fixed width -/

theorem isDigit_of_mem_padded {width n : Nat} {c : Char} (mem : c ∈ padded width n) :
    c.isDigit = true := by
  rcases List.mem_append.1 mem with zero | digit
  · rw [List.eq_of_mem_replicate zero]
    rfl
  · exact Numeral.isDigit_of_mem_toDigits digit

theorem padded_eq_cons (width n : Nat) :
    ∃ first digits, padded width n = first :: digits ∧ first.isDigit = true ∧
      ∀ c ∈ digits, c.isDigit = true := by
  have all : ∀ c ∈ padded width n, c.isDigit = true := fun _ => isDigit_of_mem_padded
  cases text : padded width n with
  | nil => exact (Nat.toDigits_ne_nil (List.append_eq_nil_iff.1 text).2).elim
  | cons first digits =>
      rw [text] at all
      exact ⟨first, digits, rfl, List.forall_mem_cons.1 all⟩

theorem ofDigitChars_padded (width n : Nat) : Nat.ofDigitChars 10 (padded width n) 0 = n := by
  rw [padded, Nat.ofDigitChars_append, Nat.ofDigitChars_replicate_zero, Nat.mul_zero,
    Nat.ofDigitChars_ten_toDigits]

theorem length_padded {width n : Nat} (positive : 0 < width) (fits : n < Nat.pow 10 width) :
    (padded width n).length = width := by
  have length : (Nat.toDigits 10 n).length ≤ width :=
    (Nat.length_toDigits_le_iff (by decide) positive).2 fits
  rw [padded, List.length_append, List.length_replicate]
  omega

theorem padded_inj {width n other : Nat} (same : padded width n = padded width other) :
    n = other := by
  rw [← ofDigitChars_padded width n, same, ofDigitChars_padded]

theorem padded_lt_padded_iff {width n other : Nat}
    (length : (padded width n).length = (padded width other).length) :
    padded width n < padded width other ↔ n < other := by
  rw [Numeral.lt_iff_ofDigitChars_lt (fun _ => isDigit_of_mem_padded)
    (fun _ => isDigit_of_mem_padded) length, ofDigitChars_padded, ofDigitChars_padded]

/-- Numbers of fixed widths, a mark after each. -/
def fixedWidth : List (Nat × Char) → List Nat → List Char
  | (width, mark) :: layout, n :: numbers => padded width n ++ mark :: fixedWidth layout numbers
  | _, _ => []

/-- Every number fits into its width. -/
def Fits : List (Nat × Char) → List Nat → Prop
  | (width, _) :: layout, n :: numbers => 0 < width ∧ n < Nat.pow 10 width ∧ Fits layout numbers
  | [], [] => True
  | _, _ => False

/-- **Numbers of fixed widths are written in their order**, the earlier ones first. -/
theorem fixedWidth_lt_iff {layout : List (Nat × Char)} {numbers others : List Nat}
    (fits : Fits layout numbers) (fits' : Fits layout others) :
    fixedWidth layout numbers < fixedWidth layout others ↔ numbers < others := by
  induction layout generalizing numbers others with
  | nil =>
      rcases numbers with _ | ⟨n, numbers⟩
      · rcases others with _ | ⟨m, others⟩
        · simp [fixedWidth]
        · exact fits'.elim
      · exact fits.elim
  | cons place layout ih =>
      rcases numbers with _ | ⟨n, numbers⟩
      · exact fits.elim
      rcases others with _ | ⟨m, others⟩
      · exact fits'.elim
      obtain ⟨positive, fit, fits⟩ := fits
      obtain ⟨-, fit', fits'⟩ := fits'
      have length : (padded place.1 n).length = (padded place.1 m).length := by
        rw [length_padded positive fit, length_padded positive fit']
      have same : padded place.1 n = padded place.1 m ↔ n = m := ⟨padded_inj, congrArg _⟩
      rw [fixedWidth, fixedWidth, Text.append_lt_append_iff length, padded_lt_padded_iff length,
        same, List.cons_lt_cons_self, ih fits fits', List.cons_lt_cons_iff]

/-! ## Within a year -/

/-- How the numbers after the year are written. -/
def layout : List (Nat × Char) := [(2, '-'), (2, 'T'), (2, ':'), (2, ':'), (2, '.'), (3, 'Z')]

/-- The numbers that are written after the year. -/
def numbers (instant : Instant) : List Nat :=
  [instant.date.month, instant.date.day, instant.secondOfDay / 3600,
    instant.secondOfDay / 60 % 60, instant.secondOfDay % 60 + instant.nanos / 1000000000,
    instant.nanos % 1000000000 / 1000000]

theorem iso_eq (instant : Instant) :
    instant.iso =
      String.ofList (yearText instant.date.year ++ '-' :: fixedWidth layout instant.numbers) := by
  simp only [iso, fixedWidth, layout, numbers, date, secondOfDay, List.append_assoc,
    List.cons_append]

theorem secondOfDay_lt (instant : Instant) : instant.secondOfDay < 86400 := by
  rw [secondOfDay]
  omega

theorem fits_numbers {instant : Instant} (regular : instant.Regular) :
    Fits layout instant.numbers := by
  have bounds := CivilDate.ofDays_bounds (instant.seconds / 86400)
  have second := secondOfDay_lt instant
  have nanos := regular.1
  have two : Nat.pow 10 2 = 100 := rfl
  have three : Nat.pow 10 3 = 1000 := rfl
  simp only [Fits, layout, numbers, date, two, three, and_true]
  omega

/-- The date is later, or the day is the same. -/
theorem date_before_or_same_day {instant other : Instant} (earlier : instant.Before other) :
    instant.date.Before other.date ∨ instant.seconds / 86400 = other.seconds / 86400 := by
  have days : instant.seconds / 86400 ≤ other.seconds / 86400 := by
    rcases earlier with earlier | ⟨same, -⟩
    · omega
    · exact Int.le_of_eq (congrArg (· / 86400) same)
  exact (Int.lt_or_eq_of_le days).imp CivilDate.before_ofDays id

theorem year_le {instant other : Instant} (earlier : instant.Before other) :
    instant.date.year ≤ other.date.year := by
  rcases date_before_or_same_day earlier with (less | ⟨same, -⟩) | same
  · exact Int.le_of_lt less
  · exact Int.le_of_eq same
  · exact Int.le_of_eq (congrArg (fun days => (CivilDate.ofDays days).year) same)

theorem secondOfDay_before {instant other : Instant} (earlier : instant.Before other)
    (sameDay : instant.seconds / 86400 = other.seconds / 86400) :
    instant.secondOfDay < other.secondOfDay ∨
      instant.secondOfDay = other.secondOfDay ∧ instant.nanos < other.nanos := by
  rcases earlier with earlier | ⟨same, fraction⟩
  · left
    simp only [secondOfDay]
    omega
  · right
    simp only [secondOfDay, same]
    exact ⟨trivial, fraction⟩

/-- An inserted second is shown after the last second of its minute. -/
theorem secondOfDay_of_inserted {instant : Instant} (regular : instant.Regular)
    (inserted : 1000000000 ≤ instant.nanos) : instant.secondOfDay % 60 = 59 := by
  have last : instant.seconds % 60 = 59 := regular.2 inserted
  rw [secondOfDay]
  omega

/-- Within a year, the numbers after it do not decrease. -/
theorem numbers_not_lt {instant other : Instant} (regular : instant.Regular)
    (earlier : instant.Before other) (year : instant.date.year = other.date.year) :
    ¬ other.numbers < instant.numbers := by
  rcases date_before_or_same_day earlier with date | sameDay
  · simp only [CivilDate.Before] at date
    simp only [numbers, List.cons_lt_cons_iff]
    omega
  · have date : instant.date = other.date := congrArg CivilDate.ofDays sameDay
    -- Hours and minutes are compared as minutes of the day.
    have hour (instant : Instant) : instant.secondOfDay / 3600 = instant.secondOfDay / 60 / 60 :=
      (Nat.div_div_eq_div_mul _ 60 60).symm
    simp only [numbers, date, hour, List.cons_lt_cons_iff, List.not_lt_nil, and_false, or_false]
    rcases secondOfDay_before earlier sameDay with before | ⟨same, fraction⟩
    · have minutes : instant.secondOfDay / 60 < other.secondOfDay / 60 ∨
          instant.secondOfDay / 60 = other.secondOfDay / 60 ∧
            instant.secondOfDay % 60 < other.secondOfDay % 60 := by omega
      have nanos : instant.nanos < 2 * 1000000000 := regular.1
      have inserted := secondOfDay_of_inserted regular
      omega
    · have fractions : instant.nanos / 1000000000 < other.nanos / 1000000000 ∨
          instant.nanos / 1000000000 = other.nanos / 1000000000 ∧
            instant.nanos % 1000000000 ≤ other.nanos % 1000000000 := by omega
      rw [same]
      omega

/-! ## Years -/

/-- A year has no dash after its first character. -/
theorem yearText_eq_cons (year : Int) :
    ∃ first digits, yearText year = first :: digits ∧ ∀ c ∈ digits, c.isDigit = true := by
  rw [yearText]
  split
  · obtain ⟨first, digits, text, -, all⟩ := padded_eq_cons 4 year.natAbs
    exact ⟨first, digits, text, all⟩
  · exact ⟨_, _, rfl, fun _ => isDigit_of_mem_padded⟩

/-- What follows the dash counts for the same year only. -/
theorem yearText_append_lt_iff (year other : Int) (rest more : List Char) :
    yearText year ++ '-' :: rest < yearText other ++ '-' :: more ↔
      yearText year < yearText other ∨ yearText year = yearText other ∧ rest < more := by
  obtain ⟨first, digits, text, all⟩ := yearText_eq_cons year
  obtain ⟨first', digits', text', all'⟩ := yearText_eq_cons other
  rw [text, text', List.cons_append, List.cons_append, List.cons_lt_cons_iff,
    List.cons_lt_cons_iff, List.cons_eq_cons, Numeral.append_dash_lt_iff all all']
  grind

theorem yearText_of_four_digits {year : Int} (least : 0 ≤ year) (most : year ≤ 9999) :
    yearText year = padded 4 year.natAbs := if_pos ⟨least, most⟩

theorem yearText_of_neg {year : Int} (negative : year < 0) :
    yearText year = '-' :: padded 4 year.natAbs := by
  rw [yearText, if_neg (by omega), if_pos negative]

theorem yearText_of_five_digits {year : Int} (late : 9999 < year) :
    yearText year = '+' :: padded 4 year.natAbs := by
  rw [yearText, if_neg (by omega), if_neg (by omega)]

/-- Signs come before digits. -/
theorem sign_lt_padded {sign : Char} (before : sign.toNat < 48) (digits : List Char)
    (width n : Nat) : sign :: digits < padded width n := by
  obtain ⟨first, more, text, digit, -⟩ := padded_eq_cons width n
  rw [text, List.cons_lt_cons_iff]
  exact .inl (Nat.lt_of_lt_of_le before (Numeral.digit_bounds digit).1)

/-- The year that a text stands for. -/
def yearOfText : List Char → Int
  | '-' :: digits => -(Nat.ofDigitChars 10 digits 0 : Int)
  | '+' :: digits => Nat.ofDigitChars 10 digits 0
  | digits => Nat.ofDigitChars 10 digits 0

theorem yearOfText_yearText (year : Int) : yearOfText (yearText year) = year := by
  have digits : Nat.ofDigitChars 10 (padded 4 year.natAbs) 0 = year.natAbs :=
    ofDigitChars_padded 4 _
  rcases Int.lt_or_le year 0 with negative | positive
  · rw [yearText_of_neg negative, yearOfText, digits]
    omega
  rcases Int.lt_or_le 9999 year with late | most
  · rw [yearText_of_five_digits late, yearOfText, digits]
    omega
  · obtain ⟨first, more, text, digit, -⟩ := padded_eq_cons 4 year.natAbs
    rw [text] at digits
    rw [yearText_of_four_digits positive most, text, yearOfText, digits]
    · omega
    all_goals
      intro more same
      cases same
      cases digit

theorem yearText_inj {year other : Int} (same : yearText year = yearText other) : year = other := by
  rw [← yearOfText_yearText year, same, yearOfText_yearText]

/-! ## Instants -/

/-- The written form of a year comes before that of another one. -/
def WrittenBefore (year other : Int) : Prop := yearText year < yearText other

instance (year other : Int) : Decidable (WrittenBefore year other) :=
  inferInstanceAs (Decidable (yearText year < yearText other))

theorem length_yearDigits {year : Int} (fits : year.natAbs ≤ 9999) :
    (padded 4 year.natAbs).length = 4 :=
  length_padded (by decide) (Nat.lt_succ_of_le fits)

theorem not_writtenBefore_of_four_digits {year later : Int} (lt : year < later)
    (least : 0 ≤ later) (most : later ≤ 9999) : ¬ WrittenBefore later year := by
  rw [WrittenBefore, yearText_of_four_digits least most]
  rcases Int.lt_or_le year 0 with negative | positive
  · rw [yearText_of_neg negative]
    exact List.lt_asymm (sign_lt_padded (by decide) _ 4 _)
  · rw [yearText_of_four_digits positive (by omega), padded_lt_padded_iff]
    · omega
    · rw [length_yearDigits (by omega), length_yearDigits (by omega)]

theorem writtenBefore_of_five_digits {year later : Int} (most : year ≤ 9999)
    (late : 9999 < later) : WrittenBefore later year := by
  rw [WrittenBefore, yearText_of_five_digits late]
  rcases Int.lt_or_le year 0 with negative | positive
  · rw [yearText_of_neg negative, List.cons_lt_cons_iff]
    exact .inl (by decide)
  · rw [yearText_of_four_digits positive most]
    exact sign_lt_padded (by decide) _ 4 _

theorem writtenBefore_of_neg {year later : Int} (least : -9999 ≤ year) (lt : year < later)
    (negative : later < 0) : WrittenBefore later year := by
  rw [WrittenBefore, yearText_of_neg negative, yearText_of_neg (Int.lt_trans lt negative),
    List.cons_lt_cons_self, padded_lt_padded_iff]
  · omega
  · rw [length_yearDigits (by omega), length_yearDigits (by omega)]

/-- A later instant of the same year or of a year from 0 to 9999 is in order. -/
theorem not_writtenBefore_of_before {instant other : Instant} (earlier : instant.Before other)
    (inOrder : instant.date.year = other.date.year ∨
      0 ≤ other.date.year ∧ other.date.year ≤ 9999) :
    ¬ WrittenBefore other.date.year instant.date.year := by
  rcases Int.lt_or_eq_of_le (year_le earlier) with less | same
  · obtain ⟨least, most⟩ := inOrder.resolve_left (Int.ne_of_lt less)
    exact not_writtenBefore_of_four_digits less least most
  · rw [same]
    exact List.lt_irrefl _

/-- **A later instant is written before an earlier one exactly when its year is.** -/
theorem iso_lt_iso_iff {instant other : Instant} (regular : instant.Regular)
    (regular' : other.Regular) (earlier : instant.Before other) :
    other.iso < instant.iso ↔ WrittenBefore other.date.year instant.date.year := by
  rw [iso_eq, iso_eq, String.lt_iff, String.toList_ofList, String.toList_ofList,
    yearText_append_lt_iff, fixedWidth_lt_iff (fits_numbers regular') (fits_numbers regular)]
  refine ⟨?_, .inl⟩
  rintro (before | ⟨same, before⟩)
  · exact before
  · have year : instant.date.year = other.date.year := (yearText_inj same).symm
    exact (numbers_not_lt regular earlier year before).elim

end Instant

end PortalConfig
