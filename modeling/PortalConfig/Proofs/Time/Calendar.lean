import PortalConfig.Time.Calendar

/-!
# Dates in order

Later days have later dates (`CivilDate.before_ofDays`). The days of a period of 400 years are
counted through the years that begin in March: `CivilDate.yearOfPeriod` is the year of a day, and
`CivilDate.yearStart` the first day of a year. Within such a year the day decides the month and the
day of the month, and January and February, at its end, already belong to the next calendar year.
-/

namespace PortalConfig

/-- Earlier in the calendar. -/
def CivilDate.Before (date other : CivilDate) : Prop :=
  date.year < other.year ∨ date.year = other.year ∧
    (date.month < other.month ∨ date.month = other.month ∧ date.day < other.day)

/-! ## Years of a period -/

/-- The year, counted from March on, of a day of a period of 400 years. -/
def CivilDate.yearOfPeriod (day : Nat) : Nat :=
  (day - day / 1460 + day / 36524 - day / 146096) / 365

/-- The first day of a year of the period. -/
def CivilDate.yearStart (year : Nat) : Nat := 365 * year + year / 4 - year / 100

/-- Later days lie in later years. The last day of the period is the one day at which the sum that
is divided does not outgrow its terms. -/
theorem CivilDate.yearOfPeriod_mono {day other : Nat} (le : day ≤ other) (inPeriod : other < 146097) :
    yearOfPeriod day ≤ yearOfPeriod other := by
  refine Nat.div_le_div_right ?_
  have fourth : day - day / 1460 ≤ other - other / 1460 := by omega
  have century : day / 36524 ≤ other / 36524 := Nat.div_le_div_right le
  rcases Nat.lt_or_ge other 146096 with within | last
  · have none : day / 146096 = 0 ∧ other / 146096 = 0 := by omega
    omega
  · obtain rfl : other = 146096 := by omega
    rcases Nat.eq_or_lt_of_le le with rfl | earlier
    · exact Nat.le_refl _
    · have none : day / 146096 = 0 := by omega
      have third : day / 36524 ≤ 3 := by omega
      have before : day - day / 1460 ≤ 146095 - 146095 / 1460 := by omega
      omega

/-- A year begins on its first day and not before. -/
theorem CivilDate.yearOfPeriod_yearStart : ∀ year < 400,
    yearOfPeriod (yearStart year) = year ∧
      (year ≠ 0 → yearOfPeriod (yearStart year - 1) = year - 1) := by
  decide +kernel

theorem CivilDate.yearOfPeriod_lt {day : Nat} (inPeriod : day < 146097) :
    yearOfPeriod day < 400 := by
  have last : yearOfPeriod 146096 = 399 := by decide
  have le : yearOfPeriod day ≤ yearOfPeriod 146096 := yearOfPeriod_mono (by omega) (by omega)
  omega

/-- A day lies in its year, which has at most 366 days. -/
theorem CivilDate.yearStart_le {day : Nat} (inPeriod : day < 146097) :
    yearStart (yearOfPeriod day) ≤ day ∧ day ≤ yearStart (yearOfPeriod day) + 365 := by
  have inRange : yearOfPeriod day < 400 := yearOfPeriod_lt inPeriod
  constructor
  · refine Nat.le_of_not_lt fun early => ?_
    have first : yearOfPeriod day ≠ 0 := by
      intro zero
      rw [zero] at early
      exact Nat.not_lt_zero day early
    have bound : yearStart (yearOfPeriod day) ≤ 146097 := by
      rw [yearStart]
      omega
    have le : yearOfPeriod day ≤ yearOfPeriod (yearStart (yearOfPeriod day) - 1) :=
      yearOfPeriod_mono (by omega) (by omega)
    rw [(yearOfPeriod_yearStart _ inRange).2 first] at le
    omega
  · refine Nat.le_of_not_lt fun late => ?_
    have next : yearStart (yearOfPeriod day + 1) ≤ day ∧ yearOfPeriod day + 1 < 400 := by
      simp only [yearStart] at late ⊢
      omega
    have le : yearOfPeriod (yearStart (yearOfPeriod day + 1)) ≤ yearOfPeriod day :=
      yearOfPeriod_mono next.1 inPeriod
    rw [(yearOfPeriod_yearStart _ next.2).1] at le
    omega

/-! ## Days of a year -/

/-- The date of a day, from 0 on, of a year that begins in March. -/
def CivilDate.ofMarch (year : Int) (dayOfYear : Nat) : CivilDate :=
  let month := (5 * dayOfYear + 2) / 153
  let day := dayOfYear - (153 * month + 2) / 5 + 1
  if month < 10 then ⟨year, month + 3, day⟩ else ⟨year + 1, month - 9, day⟩

theorem CivilDate.ofMarch_bounds (year : Int) {dayOfYear : Nat} (inYear : dayOfYear ≤ 365) :
    (ofMarch year dayOfYear).month ≤ 12 ∧ (ofMarch year dayOfYear).day ≤ 31 := by
  simp only [ofMarch]
  split <;> dsimp only <;> omega

theorem CivilDate.before_ofMarch_of_day_lt (year : Int) {day other : Nat} (lt : day < other) :
    (ofMarch year day).Before (ofMarch year other) := by
  have month : (5 * day + 2) / 153 ≤ (5 * other + 2) / 153 := by omega
  have start : (153 * ((5 * day + 2) / 153) + 2) / 5 ≤ day := by omega
  simp only [Before, ofMarch]
  split <;> split <;> dsimp only <;> omega

/-- January and February belong to the next calendar year, but come before its March. -/
theorem CivilDate.before_ofMarch_of_year_lt {year other : Int} (lt : year < other) {day day' : Nat}
    (inYear : day ≤ 365) : (ofMarch year day).Before (ofMarch other day') := by
  simp only [Before, ofMarch]
  split <;> split <;> dsimp only <;> omega

/-! ## Days since 1970 -/

/-- The period of a day. -/
def CivilDate.periodOf (days : Int) : Int := (days + 719468) / 146097

/-- The place of a day in its period. -/
def CivilDate.dayOfPeriod (days : Int) : Nat := (days + 719468 - periodOf days * 146097).toNat

theorem CivilDate.dayOfPeriod_lt (days : Int) : dayOfPeriod days < 146097 := by
  rw [dayOfPeriod, periodOf]
  omega

theorem CivilDate.ofDays_eq (days : Int) :
    ofDays days =
      ofMarch (yearOfPeriod (dayOfPeriod days) + periodOf days * 400)
        (dayOfPeriod days - yearStart (yearOfPeriod (dayOfPeriod days))) := rfl

theorem CivilDate.ofDays_bounds (days : Int) : (ofDays days).month ≤ 12 ∧ (ofDays days).day ≤ 31 := by
  have last := (yearStart_le (dayOfPeriod_lt days)).2
  rw [ofDays_eq]
  exact ofMarch_bounds _ (by omega)

/-- **Later days have later dates.** -/
theorem CivilDate.before_ofDays {days other : Int} (lt : days < other) :
    (ofDays days).Before (ofDays other) := by
  have inPeriod := dayOfPeriod_lt days
  have inPeriod' := dayOfPeriod_lt other
  have last := (yearStart_le inPeriod).2
  rw [ofDays_eq, ofDays_eq]
  have period : periodOf days ≤ periodOf other := by
    simp only [periodOf]
    omega
  -- The period decides first, then the year of the period, then the day of the year.
  rcases Int.lt_or_eq_of_le period with earlier | same
  · have year := yearOfPeriod_lt inPeriod
    exact before_ofMarch_of_year_lt (by omega) (by omega)
  · have day : dayOfPeriod days < dayOfPeriod other := by
      simp only [dayOfPeriod, periodOf] at same ⊢
      omega
    rcases Nat.lt_or_eq_of_le (yearOfPeriod_mono (Nat.le_of_lt day) inPeriod') with year | year
    · exact before_ofMarch_of_year_lt (by omega) (by omega)
    · obtain ⟨first, -⟩ := yearStart_le inPeriod
      rw [year] at first
      rw [same, year]
      exact before_ofMarch_of_day_lt _ (by omega)

end PortalConfig
