import OtcDesk.Fault

namespace OtcDesk

/-- A day of the calendar. -/
structure Date where
  year : Int
  month : Nat
  day : Nat
  deriving DecidableEq, Repr

namespace Date

/-- The days in a cycle of four hundred years. -/
def cycleDays : Nat := 146097

/-- The year within a cycle that starts in March, by the day of the cycle. -/
def yearOfCycle (day : Nat) : Nat := (day - day / 1460 + day / 36524 - day / 146096) / 365

/-- The days of a cycle before one of its years. -/
def daysBefore (year : Nat) : Nat := 365 * year + year / 4 - year / 100

/-- The day that is a number of days after the first of January 1970. -/
def ofDays (days : Int) : Date :=
  -- years are counted from March, so that the leap day is the last of its year
  let shifted := days + 719468
  let cycle := shifted / cycleDays
  let dayOfCycle := (shifted % cycleDays).toNat
  let yearOfCycle := yearOfCycle dayOfCycle
  let dayOfYear := dayOfCycle - daysBefore yearOfCycle
  let march := (5 * dayOfYear + 2) / 153
  let day := dayOfYear - (153 * march + 2) / 5 + 1
  let month := if march < 10 then march + 3 else march - 9
  let year := cycle * 400 + yearOfCycle + (if month ≤ 2 then 1 else 0)
  ⟨year, month, day⟩

end Date

namespace Instant

/-- The seconds of a day. -/
def daySeconds : Nat := 86400

/-- The day of an instant. -/
def date (instant : Int) : Date := .ofDays (instant / daySeconds)

/-- The second of the day of an instant. -/
def secondOfDay (instant : Int) : Nat := (instant % daySeconds).toNat

/-- A number below a hundred in two digits. -/
def twoDigits (n : Nat) : String := if n < 10 then "0" ++ toString n else toString n

/-- An instant as date and time, without zeros in front of the year. -/
def text (instant : Int) : String :=
  let day := date instant
  let second := secondOfDay instant
  toString day.year ++ "-" ++ twoDigits day.month ++ "-" ++ twoDigits day.day ++ " " ++
    twoDigits (second / 3600) ++ ":" ++ twoDigits (second / 60 % 60) ++ ":" ++
    twoDigits (second % 60)

/-- An instant as date and time, for the years one to 9999; any other is a fault of its size. -/
def render (instant : Int) : Except Fault String :=
  let year := (date instant).year
  if instant < -0x8000000000000000 ∨ 0x8000000000000000 ≤ instant then
    .error ⟨.tooLarge, "the instant does not fit in a word"⟩
  else if year - 1900 < -0x80000000 ∨ 0x80000000 ≤ year - 1900 then
    .error ⟨.system, "the year does not fit in a word"⟩
  else if year < 1 ∨ 9999 < year then .error ⟨.badValue, "the year is out of range"⟩
  else .ok (text instant)

end Instant

end OtcDesk
