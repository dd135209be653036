/-
This file holds the days of the Gregorian calendar, extended backwards without a year of
change. Every value is a day that exists: the year lies in the supported range and the day in
its month. The calendar is walked one day at a time in either direction, which is all that
moving a moment to another offset needs.
-/

namespace RecordMapper.Calendar

/-! ### Years and months -/

/-- The first year of the supported range. -/
def firstYear : Int := -262143

/-- The last year of the supported range. -/
def lastYear : Int := 262142

/-- Whether a year has a 29th of February. -/
def isLeapYear (year : Int) : Bool :=
  year % 4 == 0 && (year % 100 != 0 || year % 400 == 0)

/-- The number of days of a month; a number that names no month has none. -/
def monthLength (year : Int) (month : Nat) : Nat :=
  match month with
  | 1 | 3 | 5 | 7 | 8 | 10 | 12 => 31
  | 4 | 6 | 9 | 11 => 30
  | 2 => if isLeapYear year then 29 else 28
  | _ => 0

/-! ### Days -/

/-- Whether a year, a month and a day name a day of the supported range. -/
def IsDay (year : Int) (month day : Nat) : Prop :=
  firstYear ≤ year ∧ year ≤ lastYear ∧ 1 ≤ day ∧ day ≤ monthLength year month

instance (year : Int) (month day : Nat) : Decidable (IsDay year month day) :=
  inferInstanceAs (Decidable (_ ∧ _ ∧ _ ∧ _))

/-- A day of the calendar. -/
structure Date where
  year : Int
  month : Nat
  day : Nat
  isDay : IsDay year month day
  deriving DecidableEq

namespace Date

/-- The day with the given year, month and number, if there is one. -/
def of? (year : Int) (month day : Nat) : Option Date :=
  if isDay : IsDay year month day then some ⟨year, month, day, isDay⟩ else none

/-- The first of January 1970, from which instants are counted. -/
def epoch : Date := ⟨1970, 1, 1, by decide⟩

/-- The day after, unless the supported range ends. -/
def next? (date : Date) : Option Date :=
  match of? date.year date.month (date.day + 1) with
  | some following => some following
  | none =>
    match of? date.year (date.month + 1) 1 with
    | some following => some following
    | none => of? (date.year + 1) 1 1

/-- The day before, unless the supported range ends. -/
def previous? (date : Date) : Option Date :=
  match of? date.year date.month (date.day - 1) with
  | some preceding => some preceding
  | none =>
    match of? date.year (date.month - 1) (monthLength date.year (date.month - 1)) with
    | some preceding => some preceding
    | none => of? (date.year - 1) 12 31

end Date

end RecordMapper.Calendar
