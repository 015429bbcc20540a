import Mathlib.Data.List.Basic
import OtcDesk.Proofs.Calendar.DayCount
import OtcDesk.Report.Text

namespace OtcDesk

/-- A date and a time of day. -/
structure Moment where
  date : Date
  hour : Nat
  minute : Nat
  second : Nat
  deriving DecidableEq, Repr

/-- Digits that write a number in the decimal system. -/
structure Writes (digits : List Char) (number : Int) : Prop where
  decimal : ∀ c ∈ digits, c.isDigit = true
  nonempty : digits ≠ []
  value : (Nat.ofDigitChars 10 digits 0 : Int) = number

namespace Moment

/-- A moment of the calendar. -/
structure IsValid (moment : Moment) : Prop where
  date : moment.date.IsValid
  hour : moment.hour < 24
  minute : moment.minute < 60
  second : moment.second < 60

/-- The seconds from the beginning of 1970 to a moment. -/
def instant (moment : Moment) : Int :=
  moment.date.daysSinceEpoch * 86400 +
    (moment.hour * 3600 + moment.minute * 60 + moment.second : Nat)

/-- A moment comes before another by date, then hour, minute and second. -/
def Precedes (early late : Moment) : Prop :=
  early.date.Precedes late.date ∨ early.date = late.date ∧
    (early.hour < late.hour ∨ early.hour = late.hour ∧
      (early.minute < late.minute ∨ early.minute = late.minute ∧ early.second < late.second))

/-- A text that writes a date with dashes, and behind a blank a time of day with colons. -/
def IsNamedBy (moment : Moment) (text : String) : Prop :=
  ∃ year month day hour minute second : List Char,
    text.toList = year ++ '-' :: (month ++ '-' :: (day ++ ' ' ::
      (hour ++ ':' :: (minute ++ ':' :: second)))) ∧
    Writes year moment.date.year ∧ Writes month moment.date.month ∧ Writes day moment.date.day ∧
    Writes hour moment.hour ∧ Writes minute moment.minute ∧ Writes second moment.second

end Moment

theorem Writes.unique {digits : List Char} {number other : Int} (writes : Writes digits number)
    (also : Writes digits other) : number = other := writes.value.symm.trans also.value

/-- Digits end where a mark stands. -/
theorem digits_before_mark {digits other rest otherRest : List Char} {mark : Char}
    (all : ∀ c ∈ digits, c.isDigit = true) (alsoAll : ∀ c ∈ other, c.isDigit = true)
    (noDigit : mark.isDigit = false)
    (same : digits ++ mark :: rest = other ++ mark :: otherRest) :
    digits = other ∧ rest = otherRest := by
  have front := congrArg (List.takeWhile Char.isDigit) same
  rw [List.takeWhile_append_of_pos all, List.takeWhile_append_of_pos alsoAll,
    List.takeWhile_cons_of_neg (by simp [noDigit]), List.takeWhile_cons_of_neg (by simp [noDigit]),
    List.append_nil, List.append_nil] at front
  subst front
  have back := List.append_cancel_left same
  exact ⟨rfl, (List.cons.inj back).2⟩

theorem writes_toDigits (number : Nat) : Writes (Nat.toDigits 10 number) number where
  decimal _ member := Nat.isDigit_of_mem_toDigits (by decide) (by decide) member
  nonempty := Nat.toDigits_ne_nil
  value := congrArg _ Nat.ofDigitChars_ten_toDigits

theorem writes_toString {number : Int} (natural : 0 ≤ number) :
    Writes (toString number).toList number := by
  obtain ⟨value, rfl⟩ := Int.eq_ofNat_of_zero_le natural
  have digits : (toString (value : Int)).toList = Nat.toDigits 10 value := Nat.toList_repr
  rw [digits]
  exact writes_toDigits value

/-- A zero in front changes no number. -/
theorem Writes.zero_cons {digits : List Char} {number : Int} (writes : Writes digits number) :
    Writes ('0' :: digits) number where
  decimal := List.forall_mem_cons.mpr ⟨rfl, writes.decimal⟩
  nonempty := List.cons_ne_nil _ _
  value := by
    rw [Nat.ofDigitChars_cons]
    exact writes.value

theorem writes_twoDigits (number : Nat) : Writes (Instant.twoDigits number).toList number := by
  have digits : (toString number).toList = Nat.toDigits 10 number := Nat.toList_repr
  unfold Instant.twoDigits
  split
  · rw [String.toList_append, digits]
    exact (writes_toDigits number).zero_cons
  · rw [digits]
    exact writes_toDigits number

namespace Moment

/-- No text names two moments. -/
theorem IsNamedBy.unique {text : String} {moment other : Moment} (named : moment.IsNamedBy text)
    (also : other.IsNamedBy text) : moment = other := by
  obtain ⟨year, month, day, hour, minute, second, written, isYear, isMonth, isDay, isHour, isMinute,
    isSecond⟩ := named
  obtain ⟨year', month', day', hour', minute', second', written', isYear', isMonth', isDay', isHour',
    isMinute', isSecond'⟩ := also
  rw [written] at written'
  obtain ⟨rfl, months⟩ := digits_before_mark isYear.decimal isYear'.decimal rfl written'
  obtain ⟨rfl, days⟩ := digits_before_mark isMonth.decimal isMonth'.decimal rfl months
  obtain ⟨rfl, hours⟩ := digits_before_mark isDay.decimal isDay'.decimal rfl days
  obtain ⟨rfl, minutes⟩ := digits_before_mark isHour.decimal isHour'.decimal rfl hours
  obtain ⟨rfl, rfl⟩ := digits_before_mark isMinute.decimal isMinute'.decimal rfl minutes
  obtain ⟨⟨y, m, d⟩, h, n, s⟩ := moment
  obtain ⟨⟨y', m', d'⟩, h', n', s'⟩ := other
  obtain rfl : y = y' := isYear.unique isYear'
  obtain rfl : m = m' := Int.ofNat.inj (isMonth.unique isMonth')
  obtain rfl : d = d' := Int.ofNat.inj (isDay.unique isDay')
  obtain rfl : h = h' := Int.ofNat.inj (isHour.unique isHour')
  obtain rfl : n = n' := Int.ofNat.inj (isMinute.unique isMinute')
  obtain rfl : s = s' := Int.ofNat.inj (isSecond.unique isSecond')
  rfl

theorem precedes_trichotomy (moment other : Moment) :
    moment.Precedes other ∨ moment = other ∨ other.Precedes moment := by
  obtain ⟨date, hour, minute, second⟩ := moment
  obtain ⟨otherDate, otherHour, otherMinute, otherSecond⟩ := other
  simp only [Precedes, Moment.mk.injEq]
  rcases date.precedes_trichotomy otherDate with before | rfl | after
  · exact .inl (.inl before)
  · simp only [true_and]
    omega
  · exact .inr (.inr (.inl after))

/-- A moment that comes before another is fewer seconds after the beginning of 1970. -/
theorem instant_lt_of_precedes {early late : Moment} (valid : early.IsValid)
    (alsoValid : late.IsValid) (order : early.Precedes late) : early.instant < late.instant := by
  have hour := valid.hour
  have minute := valid.minute
  have second := valid.second
  unfold instant Date.daysSinceEpoch
  rcases order with date | ⟨same, time⟩
  · have days := Date.ordinal_lt_of_precedes valid.date alsoValid.date date
    omega
  · rw [same]
    omega

/-- Of two moments the later one is more seconds after the beginning of 1970. -/
theorem precedes_iff_instant_lt {early late : Moment} (valid : early.IsValid)
    (alsoValid : late.IsValid) : early.Precedes late ↔ early.instant < late.instant := by
  constructor
  · exact instant_lt_of_precedes valid alsoValid
  · intro less
    rcases early.precedes_trichotomy late with before | rfl | after
    · exact before
    · exact absurd less (Int.lt_irrefl _)
    · exact absurd (instant_lt_of_precedes alsoValid valid after) (Int.not_lt.mpr (Int.le_of_lt less))

end Moment

namespace Instant

/-- The moment of an instant. -/
def moment (instant : Int) : Moment where
  date := date instant
  hour := secondOfDay instant / 3600
  minute := secondOfDay instant / 60 % 60
  second := secondOfDay instant % 60

variable {instant : Int}

/-- The text of an instant names its moment. -/
theorem moment_isNamedBy_text (within : InCalendar instant) :
    (moment instant).IsNamedBy (text instant) := by
  have year := (year_date_iff instant).mpr within
  refine ⟨_, _, _, _, _, _, ?_, writes_toString (Int.le_of_lt year.1), writes_twoDigits _,
    writes_twoDigits _, writes_twoDigits _, writes_twoDigits _, writes_twoDigits _⟩
  simp [text, moment]

/-- The moment of an instant is one of the calendar. -/
theorem isValid_moment (within : InCalendar instant) : (moment instant).IsValid where
  date := Date.isValid_ofDays ((year_date_iff instant).mpr within)
  hour := by
    simp only [moment, secondOfDay, daySeconds]
    omega
  minute := Nat.mod_lt _ (by decide)
  second := Nat.mod_lt _ (by decide)

/-- The moment of an instant is as many seconds after the beginning of 1970. -/
theorem instant_moment (within : InCalendar instant) : (moment instant).instant = instant := by
  have days : (date instant).daysSinceEpoch = instant / daySeconds :=
    Date.daysSinceEpoch_ofDays ((year_date_iff instant).mpr within).1
  simp only [Moment.instant, moment, days, secondOfDay, daySeconds]
  omega

/-- A transition is reported behind the text of its instant. -/
theorem transition_of_render {step : Transition} {rendered : String}
    (done : render step.transitionedAt = .ok rendered) :
    ∃ rest, Report.transition step = .ok (rendered ++ rest) := by
  refine ⟨"  " ++ (Text.padStart 10 ((Text.given? step.fromStatus).getD "-") ++ (" -> " ++
    (step.toStatus ++ ((Text.given? step.errorCode).map (" error=" ++ ·)).getD ""))), ?_⟩
  simp only [Report.transition, done, bind, Except.bind, pure, Except.pure, String.append_assoc]

/-- A transition is not reported when its instant is not rendered. -/
theorem transition_of_fault {step : Transition} {fault : Fault}
    (failed : render step.transitionedAt = .error fault) :
    Report.transition step = .error fault := by
  simp only [Report.transition, failed, bind, Except.bind]

/-- An instant of the calendar, and no other, is rendered as a text that names it alone. -/
theorem timestamp_names_instant :
    (∀ instant, InCalendar instant → ∃ rendered moment, render instant = .ok rendered ∧
      moment.IsNamedBy rendered ∧ (∀ other : Moment, other.IsNamedBy rendered → other = moment) ∧
      moment.IsValid ∧ moment.instant = instant ∧
      ∀ step : Transition, step.transitionedAt = instant →
        ∃ rest, Report.transition step = .ok (rendered ++ rest)) ∧
    (∀ early late rendered renderedLater, early < late → render early = .ok rendered →
      render late = .ok renderedLater → rendered ≠ renderedLater ∧
        ∀ moment laterMoment : Moment, moment.IsNamedBy rendered →
          laterMoment.IsNamedBy renderedLater → moment.Precedes laterMoment) ∧
    ∀ instant, ¬ InCalendar instant → (∃ fault, render instant = .error fault) ∧
      ∀ step : Transition, step.transitionedAt = instant →
        ∃ fault, Report.transition step = .error fault := by
  refine ⟨?named, ?ordered, ?rejected⟩
  case named =>
    intro instant within
    have named := moment_isNamedBy_text within
    refine ⟨text instant, moment instant, render_of_inCalendar within, named,
      fun other also => also.unique named, isValid_moment within, instant_moment within, ?_⟩
    rintro step rfl
    exact transition_of_render (render_of_inCalendar within)
  case ordered =>
    intro early late rendered renderedLater order done doneLater
    have within := (render_eq_ok_iff early).mp ⟨rendered, done⟩
    have withinLater := (render_eq_ok_iff late).mp ⟨renderedLater, doneLater⟩
    obtain rfl := Except.ok.inj ((render_of_inCalendar within).symm.trans done)
    obtain rfl := Except.ok.inj ((render_of_inCalendar withinLater).symm.trans doneLater)
    have named := moment_isNamedBy_text within
    have namedLater := moment_isNamedBy_text withinLater
    constructor
    · intro same
      rw [← same] at namedLater
      have instants := congrArg Moment.instant (named.unique namedLater)
      rw [instant_moment within, instant_moment withinLater] at instants
      exact absurd order (instants ▸ Int.lt_irrefl early)
    · intro moment laterMoment isNamed isNamedLater
      rw [isNamed.unique named, isNamedLater.unique namedLater,
        Moment.precedes_iff_instant_lt (isValid_moment within) (isValid_moment withinLater),
        instant_moment within, instant_moment withinLater]
      exact order
  case rejected =>
    intro instant beyond
    cases failed : render instant with
    | ok rendered => exact absurd ((render_eq_ok_iff instant).mp ⟨rendered, failed⟩) beyond
    | error fault =>
        refine ⟨⟨fault, rfl⟩, ?_⟩
        rintro step rfl
        exact ⟨fault, transition_of_fault failed⟩

/-- The last second of 1969 is named, and comes before the leap day of the year 2000. -/
theorem last_second_of_1969_named :
    InCalendar (-1) ∧ InCalendar 951782400 ∧ (∃ moment : Moment, render (-1) = .ok (text (-1)) ∧
      moment.IsNamedBy (text (-1)) ∧ moment.instant = -1 ∧
      moment = ⟨⟨1969, 12, 31⟩, 23, 59, 59⟩) ∧
    render 951782400 = .ok "2000-02-29 00:00:00" ∧ text (-1) ≠ "2000-02-29 00:00:00" := by
  obtain ⟨named, ordered, -⟩ := timestamp_names_instant
  have within : InCalendar (-1) := by decide
  have withinLater : InCalendar 951782400 := by decide
  obtain ⟨rendered, moment, done, isNamed, unique, -, same, -⟩ := named (-1) within
  obtain rfl := Except.ok.inj ((render_of_inCalendar within).symm.trans done)
  have leapDay : render 951782400 = .ok "2000-02-29 00:00:00" := by decide +kernel
  have isThat : Instant.moment (-1) = ⟨⟨1969, 12, 31⟩, 23, 59, 59⟩ := by decide +kernel
  refine ⟨within, withinLater, ⟨moment, done, isNamed, same, ?_⟩, leapDay,
    (ordered _ _ _ _ (by decide) done leapDay).1⟩
  rw [← unique _ (moment_isNamedBy_text within), isThat]

end Instant

end OtcDesk
