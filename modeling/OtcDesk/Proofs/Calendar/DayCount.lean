import Mathlib.Algebra.GroupWithZero.Nat
import Mathlib.Data.Nat.Init
import OtcDesk.Proofs.Calendar

namespace OtcDesk.Date

/-- Every fourth year has a leap day, but of the full centuries only every fourth. -/
def isLeapYear (year : Int) : Bool :=
  year % 4 = 0 && (year % 100 ≠ 0 || year % 400 = 0)

/-- The days of a month, in a year with or without a leap day. -/
def monthDays (leap : Bool) (month : Nat) : Nat :=
  if month = 2 then if leap then 29 else 28
  else if month ∈ [4, 6, 9, 11] then 30
  else 31

/-- The days of a year before a month. -/
def daysBeforeMonth (leap : Bool) (month : Nat) : Nat :=
  ((List.range' 1 (month - 1)).map (monthDays leap)).sum

/-- The days of a year are those of its twelve months. -/
def yearDays (year : Int) : Nat := daysBeforeMonth (isLeapYear year) 13

/-- The days before a year, from the first of January of the year one on. -/
def daysBeforeYear (year : Nat) : Nat :=
  ((List.range' 1 (year - 1)).map fun earlier : Nat => yearDays earlier).sum

/-- A date of the calendar, in the years one to 9999. -/
structure IsValid (date : Date) : Prop where
  year : 1 ≤ date.year ∧ date.year ≤ 9999
  month : 1 ≤ date.month ∧ date.month ≤ 12
  day : 1 ≤ date.day ∧ date.day ≤ monthDays (isLeapYear date.year) date.month

/-- The number of a date, where the first of January of the year one is day one. -/
def ordinal (date : Date) : Nat :=
  daysBeforeYear date.year.toNat + daysBeforeMonth (isLeapYear date.year) date.month + date.day

/-- The days from the first of January 1970 to a date. -/
def daysSinceEpoch (date : Date) : Int := date.ordinal - (Date.mk 1970 1 1).ordinal

theorem yearDays_eq (year : Int) : yearDays year = if isLeapYear year then 366 else 365 := by
  unfold yearDays
  cases isLeapYear year <;> rfl

/-- The years from March to March have a leap day where the calendar has one. -/
theorem daysBeforeMarch_succ (year : Int) :
    daysBeforeMarch year = daysBeforeMarch (year - 1) + yearDays year := by
  rw [yearDays_eq]
  unfold daysBeforeMarch isLeapYear
  simp only [Bool.and_eq_true, Bool.or_eq_true, decide_eq_true_eq]
  split <;> omega

theorem daysBeforeYear_succ {year : Nat} (positive : 1 ≤ year) :
    daysBeforeYear (year + 1) = daysBeforeYear year + yearDays year := by
  obtain ⟨earlier, rfl⟩ := Nat.exists_eq_add_of_le' positive
  unfold daysBeforeYear
  rw [Nat.add_sub_cancel, Nat.add_sub_cancel, List.range'_1_concat, List.map_append,
    List.sum_append, List.map_singleton, List.sum_singleton, Nat.add_comm 1 earlier]

/-- The days before a year of the calendar are those of the years that start in March. -/
theorem daysBeforeYear_eq {year : Nat} (positive : 1 ≤ year) :
    (daysBeforeYear year : Int) = daysBeforeMarch (year - 1) := by
  induction year, positive using Nat.le_induction with
  | base => rfl
  | succ year positive ih =>
      have next := daysBeforeMarch_succ year
      rw [daysBeforeYear_succ positive, Int.natCast_add, ih, Int.natCast_add, Int.natCast_one,
        Int.add_sub_cancel, next]

/-- From March on, the months of a year begin after its leap day, if it has one. -/
theorem from_march (leap : Bool) : ∀ dayOfYear < 306,
    (3 ≤ monthOf dayOfYear ∧ monthOf dayOfYear ≤ 12) ∧
      (1 ≤ dayOf dayOfYear ∧ dayOf dayOfYear ≤ monthDays leap (monthOf dayOfYear)) ∧
      daysBeforeMonth leap (monthOf dayOfYear) + dayOf dayOfYear =
        dayOfYear + daysBeforeMonth leap 3 + 1 := by
  cases leap <;> decide +kernel

/-- January and February end a year that starts in March, and a leap day is its last. -/
theorem from_january (leap : Bool) : ∀ dayOfYear < if leap then 366 else 365, 306 ≤ dayOfYear →
    (1 ≤ monthOf dayOfYear ∧ monthOf dayOfYear ≤ 2) ∧
      (1 ≤ dayOf dayOfYear ∧ dayOf dayOfYear ≤ monthDays leap (monthOf dayOfYear)) ∧
      daysBeforeMonth leap (monthOf dayOfYear) + dayOf dayOfYear + 305 = dayOfYear := by
  cases leap <;> decide +kernel

/-- A number of days is a valid date, and as many days come before it. -/
theorem ofDays_counts (days : Int) :
    (1 ≤ (ofDays days).month ∧ (ofDays days).month ≤ 12) ∧
      (1 ≤ (ofDays days).day ∧ (ofDays days).day ≤
        monthDays (isLeapYear (ofDays days).year) (ofDays days).month) ∧
      daysBeforeMarch ((ofDays days).year - 1) +
        (daysBeforeMonth (isLeapYear (ofDays days).year) (ofDays days).month +
          (ofDays days).day : Nat) = days + 719163 := by
  obtain ⟨march, dayOfYear, inside, below, same⟩ := ofDays_inYear days
  rcases Nat.lt_or_ge dayOfYear 306 with early | winter
  · rw [if_neg (by omega), Int.add_zero] at same
    obtain ⟨⟨fromMarch, month⟩, day, count⟩ := from_march (isLeapYear march) dayOfYear early
    have length := daysBeforeMarch_succ march
    have shape : yearDays march = daysBeforeMonth (isLeapYear march) 3 + 306 := by
      unfold yearDays
      cases isLeapYear march <;> rfl
    rw [same]
    dsimp only
    refine ⟨⟨by omega, month⟩, day, ?_⟩
    rw [count]
    omega
  · rw [if_pos winter] at same
    have length := daysBeforeMarch_succ (march + 1)
    rw [Int.add_sub_cancel, yearDays_eq] at length
    have within : dayOfYear < if isLeapYear (march + 1) then 366 else 365 := by
      split at length <;> split <;> omega
    obtain ⟨⟨first, month⟩, day, count⟩ :=
      from_january (isLeapYear (march + 1)) dayOfYear within winter
    rw [same]
    dsimp only
    refine ⟨⟨first, by omega⟩, day, ?_⟩
    rw [Int.add_sub_cancel]
    omega

/-- A number of days whose year is one of the calendar is a date of the calendar. -/
theorem isValid_ofDays {days : Int} (year : 1 ≤ (ofDays days).year ∧ (ofDays days).year ≤ 9999) :
    (ofDays days).IsValid := by
  obtain ⟨month, day, -⟩ := ofDays_counts days
  exact ⟨year, month, day⟩

theorem ordinal_eq {date : Date} (year : 1 ≤ date.year) :
    (date.ordinal : Int) = daysBeforeMarch (date.year - 1) +
      (daysBeforeMonth (isLeapYear date.year) date.month + date.day : Nat) := by
  have positive : 1 ≤ date.year.toNat := by omega
  have same : (date.year.toNat : Int) = date.year := Int.toNat_of_nonneg (by omega)
  rw [ordinal, Nat.add_assoc, Int.natCast_add, daysBeforeYear_eq positive, same]

/-- A number of days is the date that comes so many days after the first of January 1970. -/
theorem daysSinceEpoch_ofDays {days : Int} (year : 1 ≤ (ofDays days).year) :
    (ofDays days).daysSinceEpoch = days := by
  have epoch : ((Date.mk 1970 1 1).ordinal : Int) = 719163 := ordinal_eq (by decide)
  obtain ⟨-, -, count⟩ := ofDays_counts days
  rw [daysSinceEpoch, epoch, ordinal_eq year, count]
  omega

/-- A date comes before another by year, then month, then day. -/
def Precedes (early late : Date) : Prop :=
  early.year < late.year ∨ early.year = late.year ∧
    (early.month < late.month ∨ early.month = late.month ∧ early.day < late.day)

theorem precedes_trichotomy (date other : Date) :
    date.Precedes other ∨ date = other ∨ other.Precedes date := by
  obtain ⟨year, month, day⟩ := date
  obtain ⟨otherYear, otherMonth, otherDay⟩ := other
  simp only [Precedes, Date.mk.injEq]
  omega

/-- A month is over before the next one begins. -/
theorem daysBeforeMonth_le (leap : Bool) : ∀ later < 14, ∀ month < later, 1 ≤ month →
    daysBeforeMonth leap month + monthDays leap month ≤ daysBeforeMonth leap later := by
  cases leap <;> decide

/-- A year is over before the next one begins. -/
theorem daysBeforeMarch_le {early late : Int} (order : early < late) :
    daysBeforeMarch (early - 1) + yearDays early ≤ daysBeforeMarch (late - 1) := by
  rw [← daysBeforeMarch_succ]
  rcases Int.lt_or_eq_of_le (Int.le_sub_one_of_lt order) with less | same
  · have apart := daysBeforeMarch_lt less
    omega
  · exact Int.le_of_eq (congrArg daysBeforeMarch same)

/-- A date that comes before another has the smaller number. -/
theorem ordinal_lt_of_precedes {early late : Date} (valid : early.IsValid)
    (alsoValid : late.IsValid) (order : early.Precedes late) : early.ordinal < late.ordinal := by
  have count := ordinal_eq valid.year.1
  have otherCount := ordinal_eq alsoValid.year.1
  have ofYear := daysBeforeMonth_le (isLeapYear early.year) 13 (by decide) early.month
    (Nat.lt_succ_of_le valid.month.2) valid.month.1
  have day := valid.day
  have otherDay := alsoValid.day
  rcases order with year | ⟨sameYear, month | ⟨sameMonth, dayOrder⟩⟩
  · have years := daysBeforeMarch_le year
    unfold yearDays at years
    omega
  · have months := daysBeforeMonth_le (isLeapYear early.year) late.month
      (Nat.lt_of_le_of_lt alsoValid.month.2 (by decide)) early.month month valid.month.1
    rw [← sameYear] at otherCount
    omega
  · rw [← sameYear, ← sameMonth] at otherCount
    omega

end OtcDesk.Date
