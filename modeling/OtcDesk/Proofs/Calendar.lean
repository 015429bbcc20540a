import Mathlib.Tactic.ByContra
import OtcDesk.Calendar

namespace OtcDesk

namespace Date

/-- A day of a cycle, where those are counted that are no leap days. -/
def commonDay (day : Nat) : Nat := day - day / 1460 + day / 36524 - day / 146096

theorem commonDay_mono {early late : Nat} (order : early ≤ late) (inCycle : late < cycleDays) :
    commonDay early ≤ commonDay late := by
  unfold cycleDays at inCycle
  unfold commonDay
  omega

/-- The first day of a year of the cycle is its first common day as well. -/
theorem commonDay_daysBefore : ∀ year < 400,
    365 * year ≤ commonDay (daysBefore year) ∧
      (0 < year → commonDay (daysBefore year - 1) < 365 * year) := by
  decide +kernel

/-- A day of a cycle lies in its year of the cycle. -/
theorem yearOfCycle_spec {day : Nat} (inCycle : day < cycleDays) :
    yearOfCycle day < 400 ∧ daysBefore (yearOfCycle day) ≤ day ∧
      (yearOfCycle day < 399 → day < daysBefore (yearOfCycle day + 1)) := by
  have year : yearOfCycle day = commonDay day / 365 := rfl
  have last : commonDay day ≤ commonDay 146096 :=
    commonDay_mono (Nat.le_of_lt_succ inCycle) (by decide)
  have short : yearOfCycle day < 400 := by
    have known : commonDay 146096 = 145999 := by decide
    omega
  refine ⟨short, ?_, ?_⟩
  · by_contra before
    have positive : 0 < yearOfCycle day := by
      by_contra first
      simp [Nat.eq_zero_of_not_pos first, daysBefore] at before
    have early := (commonDay_daysBefore _ short).2 positive
    have inside : daysBefore (yearOfCycle day) - 1 < cycleDays := by
      unfold daysBefore cycleDays
      omega
    have order := commonDay_mono (Nat.le_sub_one_of_lt (Nat.lt_of_not_le before)) inside
    omega
  · intro earlier
    by_contra behind
    have late := (commonDay_daysBefore (yearOfCycle day + 1) (by omega)).1
    have order := commonDay_mono (Nat.le_of_not_lt behind) inCycle
    omega

/-- A year has no more than 366 days. -/
theorem dayOfYear_le {day : Nat} (inCycle : day < cycleDays) :
    day - daysBefore (yearOfCycle day) ≤ 365 := by
  obtain ⟨short, above, below⟩ := yearOfCycle_spec inCycle
  unfold daysBefore cycleDays at *
  omega

/-- The month of a day of a year that starts in March. -/
def monthOf (dayOfYear : Nat) : Nat :=
  if (5 * dayOfYear + 2) / 153 < 10 then (5 * dayOfYear + 2) / 153 + 3
  else (5 * dayOfYear + 2) / 153 - 9

/-- The day of its month of a day of a year that starts in March. -/
def dayOf (dayOfYear : Nat) : Nat := dayOfYear - (153 * ((5 * dayOfYear + 2) / 153) + 2) / 5 + 1

/-- January and February are the months from the 307th day of a year that starts in March on. -/
theorem month_le_two_iff {dayOfYear : Nat} (inYear : dayOfYear ≤ 365) :
    monthOf dayOfYear ≤ 2 ↔ 306 ≤ dayOfYear := by
  unfold monthOf
  split <;> omega

/-- The days before a year that starts in March, from the first of March of the year zero. -/
def daysBeforeMarch (year : Int) : Int := 365 * year + year / 4 - year / 100 + year / 400

/-- The first of January of a year, in days from the first of January 1970. -/
def newYear (year : Int) : Int := daysBeforeMarch (year - 1) + 306 - 719468

theorem daysBeforeMarch_lt {early late : Int} (order : early < late) :
    daysBeforeMarch early + 365 ≤ daysBeforeMarch late := by
  unfold daysBeforeMarch
  omega

/-- Every day is one of a year that starts in March. -/
theorem ofDays_inYear (days : Int) :
    ∃ (march : Int) (dayOfYear : Nat), days + 719468 = daysBeforeMarch march + dayOfYear ∧
      days + 719468 < daysBeforeMarch (march + 1) ∧
      ofDays days = ⟨march + (if 306 ≤ dayOfYear then 1 else 0), monthOf dayOfYear,
        dayOf dayOfYear⟩ := by
  let cycle := (days + 719468) / cycleDays
  let day := ((days + 719468) % cycleDays).toNat
  have inCycle : day < cycleDays := by
    simp only [day, cycleDays]
    omega
  have split : days + 719468 = 146097 * cycle + day := by
    simp only [day, cycle, cycleDays]
    omega
  obtain ⟨short, above, below⟩ := yearOfCycle_spec inCycle
  have same : ofDays days = ⟨cycle * 400 + yearOfCycle day +
      (if 306 ≤ day - daysBefore (yearOfCycle day) then 1 else 0),
      monthOf (day - daysBefore (yearOfCycle day)), dayOf (day - daysBefore (yearOfCycle day))⟩ := by
    have winter := month_le_two_iff (dayOfYear_le inCycle)
    have year := congrArg (cycle * 400 + (yearOfCycle day : Int) + ·)
      (if_congr winter (rfl : (1 : Int) = 1) (rfl : (0 : Int) = 0))
    exact congrArg (Date.mk · (monthOf _) (dayOf _)) year
  generalize yearOfCycle day = year at short above below same
  have before : daysBeforeMarch (cycle * 400 + year) = 146097 * cycle + daysBefore year := by
    unfold daysBeforeMarch daysBefore
    omega
  refine ⟨cycle * 400 + year, day - daysBefore year, by omega, ?_, same⟩
  rcases Nat.lt_or_ge year 399 with earlier | last
  · have after : daysBeforeMarch (cycle * 400 + year + 1) =
        146097 * cycle + daysBefore (year + 1) := by
      unfold daysBeforeMarch daysBefore
      omega
    have within := below earlier
    omega
  · -- the last year of a cycle ends with the cycle
    have after : daysBeforeMarch (cycle * 400 + year + 1) = 146097 * (cycle + 1) := by
      unfold daysBeforeMarch
      omega
    unfold cycleDays at inCycle
    omega

/-- A day is in a year or later exactly if it is not before the first of January of it. -/
theorem le_year_ofDays_iff (year days : Int) :
    year ≤ (ofDays days).year ↔ newYear year ≤ days := by
  obtain ⟨march, dayOfYear, inside, below, same⟩ := ofDays_inYear days
  rw [same, newYear]
  dsimp only
  rcases Int.lt_trichotomy march (year - 1) with earlier | rfl | later
  · have order : daysBeforeMarch (march + 1) ≤ daysBeforeMarch (year - 1) := by
      rcases Int.lt_or_eq_of_le (Int.add_one_le_of_lt earlier) with less | equal
      · exact Int.le_trans (by omega) (daysBeforeMarch_lt less)
      · exact Int.le_of_eq (congrArg daysBeforeMarch equal)
    split <;> omega
  · split <;> omega
  · have order := daysBeforeMarch_lt later
    split <;> omega

end Date

namespace Instant

/-- An instant lies in the years one to 9999. -/
def InCalendar (instant : Int) : Prop := -62135596800 ≤ instant ∧ instant ≤ 253402300799

instance (instant : Int) : Decidable (InCalendar instant) := inferInstanceAs (Decidable (_ ∧ _))

/-- The instants of the calendar are those with a year from one to 9999. -/
theorem year_date_iff (instant : Int) :
    1 ≤ (date instant).year ∧ (date instant).year ≤ 9999 ↔ InCalendar instant := by
  have first := Date.le_year_ofDays_iff 1 (instant / daySeconds)
  have last := Date.le_year_ofDays_iff 10000 (instant / daySeconds)
  have begins : Date.newYear 1 = -719162 := by decide
  have ends : Date.newYear 10000 = 2932897 := by decide
  rw [begins] at first
  rw [ends] at last
  unfold InCalendar date
  unfold daySeconds at *
  omega

/-- An instant of the calendar is rendered as date and time. -/
theorem render_of_inCalendar {instant : Int} (within : InCalendar instant) :
    render instant = .ok (text instant) := by
  have inYears := (year_date_iff instant).mpr within
  unfold InCalendar at within
  unfold render
  dsimp only
  rw [if_neg (by omega), if_neg (by omega), if_neg (by omega)]

/-- An instant is rendered exactly if it lies in the calendar. -/
theorem render_eq_ok_iff (instant : Int) :
    (∃ rendered, render instant = .ok rendered) ↔ InCalendar instant := by
  constructor
  · rintro ⟨rendered, done⟩
    rw [← year_date_iff]
    unfold render at done
    dsimp only at done
    split at done
    · cases done
    · split at done
      · cases done
      · split at done
        · cases done
        · omega
  · exact fun within => ⟨text instant, render_of_inCalendar within⟩

end Instant

end OtcDesk
