/-
This file holds times of day and moments, a moment being a day with a time. After any second the
nanoseconds may run through a second thousand million: that is a leap second, and it is written as
the second that would be next. Made of numbers, a time has a leap second only after the last second
of a minute, which is written as second sixty; calculating with times can put one after any other.
A moment can be moved by whole minutes, which is how a text with an offset is brought to universal
time; a leap second stays one.
-/

import RecordMapper.Calendar.Date

namespace RecordMapper.Calendar

/-! ### Times of day -/

/-- The nanoseconds of one second. -/
def nanosPerSecond : Nat := 1000000000

/-- Whether four numbers are those of a time of day. -/
def IsTime (hour minute second nano : Nat) : Prop :=
  hour < 24 ∧ minute < 60 ∧ second < 60 ∧ nano < 2 * nanosPerSecond

instance (hour minute second nano : Nat) : Decidable (IsTime hour minute second nano) :=
  inferInstanceAs (Decidable (_ ∧ _ ∧ _ ∧ _))

/-- Whether the nanoseconds after a second, if they are those of a leap second, follow the last
second of a minute. -/
def IsPlainSecond (second nano : Nat) : Prop :=
  nano < nanosPerSecond ∨ second = 59

instance (second nano : Nat) : Decidable (IsPlainSecond second nano) :=
  inferInstanceAs (Decidable (_ ∨ _))

/-- A time of day to the nanosecond. -/
structure TimeOfDay where
  hour : Nat
  minute : Nat
  second : Nat
  nano : Nat
  isTime : IsTime hour minute second nano
  deriving DecidableEq

namespace TimeOfDay

/-- The time with the given parts, if there is one and its leap second is in its place. -/
def of? (hour minute second nano : Nat) : Option TimeOfDay :=
  if isTime : IsTime hour minute second nano ∧ IsPlainSecond second nano then
    some ⟨hour, minute, second, nano, isTime.1⟩
  else none

/-- The start of the day. -/
def midnight : TimeOfDay := ⟨0, 0, 0, 0, by decide⟩

/-- The second as it is written: one more in a leap second. -/
def shownSecond (time : TimeOfDay) : Nat :=
  time.second + time.nano / nanosPerSecond

/-- The nanoseconds after the second as it is written. -/
def shownNano (time : TimeOfDay) : Nat :=
  time.nano % nanosPerSecond

/-- The time in another minute of the day, second and nanoseconds being kept. -/
def atMinute (time : TimeOfDay) (minuteOfDay : Nat) (within : minuteOfDay < 1440) : TimeOfDay where
  hour := minuteOfDay / 60
  minute := minuteOfDay % 60
  second := time.second
  nano := time.nano
  isTime := ⟨by omega, by omega, time.isTime.2.2⟩

end TimeOfDay

/-! ### Moments -/

/-- A time on a day, without an offset. As an instant it is read in universal time. -/
structure Moment where
  date : Date
  time : TimeOfDay
  deriving DecidableEq

namespace Moment

/-- The moment from which instants are counted. -/
def epoch : Moment := ⟨Date.epoch, TimeOfDay.midnight⟩

/-- The moment a number of minutes earlier, for less than a day either way. -/
def minutesEarlier? (moment : Moment) (minutes : Int) : Option Moment :=
  let total : Int := 60 * moment.time.hour + moment.time.minute - minutes
  let date? :=
    if total < 0 then moment.date.previous?
    else if total < 1440 then some moment.date
    else moment.date.next?
  date?.map fun date => ⟨date, moment.time.atMinute (total % 1440).toNat (by omega)⟩

end Moment

end RecordMapper.Calendar
