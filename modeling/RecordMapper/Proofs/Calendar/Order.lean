/-
This file proves that texts of dates and times stand in the order of what they are texts of. Days
are ordered by year, month and day, times of day by seconds and then by nanoseconds, and moments by
day and time. In the years of four digits every number of a day and of a clock is written to a
fixed width, so that the first difference of two texts lies in the greatest unit that differs. The
fraction of a second is the exception: it is as long as it needs to be, and its end is decided by
the plus sign of the offset, which is less than every digit and less than a point. As a leap second
that does not end a minute is written like the next second, texts stand in the order of what is
written and not of what it is written for.
-/

import RecordMapper.Proofs.Calendar.RoundTrip
import RecordMapper.Proofs.Text.Order
import Mathlib.Order.RelClasses

namespace RecordMapper.Calendar

open RecordMapper.Text

/-! ### The order of days -/

/-- A day comes before another: in year, or else in month, or else in number. -/
def Date.Before (first second : Date) : Prop :=
  first.year < second.year ∨ first.year = second.year ∧
    (first.month < second.month ∨ first.month = second.month ∧ first.day < second.day)

instance : IsStrictOrder Date Date.Before where
  irrefl day before := by
    unfold Date.Before at before
    omega
  trans first second third before beforeToo := by
    unfold Date.Before at *
    omega

instance : PartialOrder Date :=
  partialOrderOfSO Date.Before

theorem Date.lt_iff {first second : Date} : first < second ↔
    first.year < second.year ∨ first.year = second.year ∧
      (first.month < second.month ∨ first.month = second.month ∧ first.day < second.day) :=
  Iff.rfl

/-- Whether the year of a day is written with four digits and no sign. -/
def Date.HasPlainYear (date : Date) : Prop :=
  0 ≤ date.year ∧ date.year ≤ 9999

theorem Date.text_of_plainYear {date : Date} (plain : date.HasPlainYear) :
    date.text = paddedText 4 date.year.toNat ++ "-" ++ paddedText 2 date.month ++ "-" ++
      paddedText 2 date.day := by
  rw [Date.text, yearText]
  exact congrArg (· ++ "-" ++ paddedText 2 date.month ++ "-" ++ paddedText 2 date.day)
    (if_pos plain)

/-- Days stand in the order of their texts, whatever follows them. -/
theorem Date.text_append_lt_iff {first second : Date} (plain : first.HasPlainYear)
    (plainToo : second.HasPlainYear) {rest other : List Char} :
    first.text.toList ++ rest < second.text.toList ++ other ↔
      first < second ∨ first = second ∧ rest < other := by
  have hyphen : "-".toList = ['-'] := by decide
  have month := first.month_range
  have monthToo := second.month_range
  have day := first.day_range
  have dayToo := second.day_range
  obtain ⟨least, most⟩ := id plain
  obtain ⟨leastToo, mostToo⟩ := id plainToo
  have room : first.year.toNat < Nat.pow 10 4 := by show _ < 10000; omega
  have roomToo : second.year.toNat < Nat.pow 10 4 := by show _ < 10000; omega
  have pair {value : Nat} (small : value < 100) : value < Nat.pow 10 2 := small
  have equal : first = second ↔
      first.year = second.year ∧ first.month = second.month ∧ first.day = second.day := by
    cases first
    cases second
    simp
  have years : first.year.toNat < second.year.toNat ↔ first.year < second.year := by omega
  have sameYears : first.year.toNat = second.year.toNat ↔ first.year = second.year := by omega
  rw [Date.text_of_plainYear plain, Date.text_of_plainYear plainToo]
  simp only [String.toList_append, hyphen, List.append_assoc, List.cons_append, List.nil_append]
  rw [paddedText_append_lt_iff (by omega) room roomToo, cons_lt_cons_self,
    paddedText_append_lt_iff (by omega) (pair (by omega)) (pair (by omega)), cons_lt_cons_self,
    paddedText_append_lt_iff (by omega) (pair (by omega)) (pair (by omega)), years, sameYears,
    Date.lt_iff, equal]
  simp only [and_or_left, or_assoc, and_assoc]

/-! ### The order of times -/

/-- The seconds since the day began, those of a leap second not counted. -/
def TimeOfDay.secondOfDay (time : TimeOfDay) : Nat :=
  3600 * time.hour + 60 * time.minute + time.second

/-- A time comes before another: in seconds, or else in nanoseconds, so that those of a leap second
come after all others of the second that it prolongs. -/
def TimeOfDay.Before (first second : TimeOfDay) : Prop :=
  first.secondOfDay < second.secondOfDay ∨
    first.secondOfDay = second.secondOfDay ∧ first.nano < second.nano

instance : IsStrictOrder TimeOfDay TimeOfDay.Before where
  irrefl time before := by
    unfold TimeOfDay.Before at before
    omega
  trans first second third before beforeToo := by
    unfold TimeOfDay.Before at *
    omega

instance : PartialOrder TimeOfDay :=
  partialOrderOfSO TimeOfDay.Before

/-- Times whose leap seconds are in their places are in the order of the numbers that are shown, in
which the nanoseconds of a leap second count as a second more. -/
theorem TimeOfDay.lt_iff_shown {first second : TimeOfDay} (plain : first.HasPlainSecond)
    (plainToo : second.HasPlainSecond) : first < second ↔
    first.hour < second.hour ∨ first.hour = second.hour ∧
      (first.minute < second.minute ∨ first.minute = second.minute ∧
        (first.shownSecond < second.shownSecond ∨ first.shownSecond = second.shownSecond ∧
          first.shownNano < second.shownNano)) := by
  obtain ⟨-, minutes, seconds, nanos⟩ := first.isTime
  obtain ⟨-, minutesToo, secondsToo, nanosToo⟩ := second.isTime
  show first.Before second ↔ _
  simp only [Before, secondOfDay, shownSecond, shownNano]
  unfold HasPlainSecond IsPlainSecond nanosPerSecond at *
  omega

/-- What is written in place of times is in the order of the numbers that are shown. -/
theorem TimeOfDay.asShown_lt_iff {first second : TimeOfDay} : first.asShown < second.asShown ↔
    first.hour < second.hour ∨ first.hour = second.hour ∧
      (first.minute < second.minute ∨ first.minute = second.minute ∧
        (first.shownSecond < second.shownSecond ∨ first.shownSecond = second.shownSecond ∧
          first.shownNano < second.shownNano)) := by
  rw [lt_iff_shown first.hasPlainSecond_asShown second.hasPlainSecond_asShown]
  simp only [hour_asShown, minute_asShown, shown_asShown]

variable {first second : TimeOfDay} {rest other : List Char}

/-- Clocks stand in the order of their texts, whatever follows them. -/
theorem TimeOfDay.clock_append_lt_iff :
    first.clock.toList ++ rest < second.clock.toList ++ other ↔
      first.hour < second.hour ∨ first.hour = second.hour ∧
        (first.minute < second.minute ∨ first.minute = second.minute ∧
          (first.shownSecond < second.shownSecond ∨ first.shownSecond = second.shownSecond ∧
            rest < other)) := by
  have colon : ":".toList = [':'] := by decide
  obtain ⟨hours, minutes, -, -⟩ := first.isTime
  obtain ⟨hoursToo, minutesToo, -, -⟩ := second.isTime
  have seconds := first.shownSecond_le
  have secondsToo := second.shownSecond_le
  have pair {value : Nat} (small : value < 100) : value < Nat.pow 10 2 := small
  unfold TimeOfDay.clock
  simp only [String.toList_append, colon, List.append_assoc, List.cons_append, List.nil_append]
  rw [paddedText_append_lt_iff (by omega) (pair (by omega)) (pair (by omega)), cons_lt_cons_self,
    paddedText_append_lt_iff (by omega) (pair (by omega)) (pair (by omega)), cons_lt_cons_self,
    paddedText_append_lt_iff (by omega) (pair (by omega)) (pair (by omega))]

/-- The fraction with fewer nanoseconds is less, if a plus sign follows: where one fraction ends
before the other the sign is compared with a digit or a point. -/
theorem TimeOfDay.fraction_append_lt (ordered : first.shownNano < second.shownNano) :
    first.fraction.toList ++ '+' :: rest < second.fraction.toList ++ '+' :: other := by
  have point : ".".toList = ['.'] := by decide
  rcases second.fraction_cases with ⟨zero, -⟩ | ⟨placesToo, valueToo, positiveToo, shortToo,
    roomToo, sameToo, shownToo⟩
  · omega
  rw [shownToo, String.toList_append, point]
  rcases first.fraction_cases with
    ⟨-, unwritten⟩ | ⟨places, value, positive, short, room, same, shown⟩
  · rw [unwritten]
    exact List.cons_lt_cons_iff.mpr (.inl (by decide))
  · have length := length_paddedText room positive
    have lengthToo := length_paddedText roomToo positiveToo
    rw [shown, String.toList_append, point, List.append_assoc, List.append_assoc,
      List.singleton_append, List.singleton_append, cons_lt_cons_self]
    refine append_lt_append_of_filled (by decide) (isDigits_paddedText places value)
      (isDigits_paddedText placesToo valueToo) (by omega : _ ≤ 9) (by omega) ?_
    rw [isDigits_lt_iff (isDigits_filled (isDigits_paddedText _ _) 9)
      (isDigits_filled (isDigits_paddedText _ _) 9)
      ((length_filled (by omega)).trans (length_filled (by omega)).symm),
      ofDigitChars_filled, ofDigitChars_filled, length, lengthToo, ofDigitChars_paddedText,
      ofDigitChars_paddedText, same, sameToo]
    exact ordered

theorem TimeOfDay.fraction_eq (same : first.shownNano = second.shownNano) :
    first.fraction = second.fraction := by
  simp only [TimeOfDay.fraction, same]

/-- Fractions stand in the order of their texts, if the same follows behind a plus sign. -/
theorem TimeOfDay.fraction_append_lt_iff :
    first.fraction.toList ++ '+' :: rest < second.fraction.toList ++ '+' :: rest ↔
      first.shownNano < second.shownNano := by
  refine ⟨fun less => ?_, fraction_append_lt⟩
  rcases Nat.lt_trichotomy first.shownNano second.shownNano with ordered | same | reversed
  · exact ordered
  · rw [fraction_eq same] at less
    exact absurd less (List.lt_irrefl _)
  · exact absurd (fraction_append_lt reversed) (List.lt_asymm less)

/-- Shown times stand in the order of their texts, if the same follows behind a plus sign. -/
theorem TimeOfDay.text_append_lt_iff :
    first.text.toList ++ '+' :: rest < second.text.toList ++ '+' :: rest ↔
      first.asShown < second.asShown := by
  unfold TimeOfDay.text
  rw [String.toList_append, String.toList_append, List.append_assoc, List.append_assoc,
    clock_append_lt_iff, fraction_append_lt_iff, asShown_lt_iff]

/-- A time whose stored text is less is shown as earlier; the texts of times within a microsecond
agree. -/
theorem TimeOfDay.lt_of_stored_lt (less : first.stored.toList < second.stored.toList) :
    first.asShown < second.asShown := by
  have point : ".".toList = ['.'] := by decide
  have room (time : TimeOfDay) : time.shownNano / 1000 < Nat.pow 10 6 := by
    have bound : time.shownNano < 1000000000 := Nat.mod_lt _ (by decide)
    show _ < 1000000
    omega
  unfold TimeOfDay.stored at less
  simp only [String.toList_append, point, List.append_assoc, List.singleton_append] at less
  rw [clock_append_lt_iff, cons_lt_cons_self,
    ← List.append_nil (paddedText 6 (first.shownNano / 1000)).toList,
    ← List.append_nil (paddedText 6 (second.shownNano / 1000)).toList,
    paddedText_append_lt_iff (by omega) (room first) (room second)] at less
  simp only [List.lt_irrefl, and_false, or_false] at less
  rw [asShown_lt_iff]
  omega

/-! ### The order of moments -/

/-- A moment comes before another: in its day, or else in its time. -/
def Moment.Before (first second : Moment) : Prop :=
  first.date < second.date ∨ first.date = second.date ∧ first.time < second.time

instance : IsStrictOrder Moment Moment.Before where
  irrefl moment before := by
    rcases before with day | ⟨-, time⟩
    · exact lt_irrefl _ day
    · exact lt_irrefl _ time
  trans first second third before beforeToo := by
    rcases before with day | ⟨same, time⟩ <;> rcases beforeToo with dayToo | ⟨sameToo, timeToo⟩
    · exact .inl (day.trans dayToo)
    · exact .inl (sameToo ▸ day)
    · exact .inl (same ▸ dayToo)
    · exact .inr ⟨same.trans sameToo, time.trans timeToo⟩

instance : PartialOrder Moment :=
  partialOrderOfSO Moment.Before

theorem Moment.lt_iff {first second : Moment} :
    first < second ↔ first.date < second.date ∨ first.date = second.date ∧
      first.time < second.time :=
  Iff.rfl

section

variable {first second : Moment} (plain : first.date.HasPlainYear)
variable (plainToo : second.date.HasPlainYear)

include plain plainToo

/-- Instants stand in the order of their internet timestamps, to the nanosecond. -/
theorem Moment.internet_lt_iff :
    first.internet.toList < second.internet.toList ↔ first.asShown < second.asShown := by
  have letter : "T".toList = ['T'] := by decide
  have zone : "+00:00".toList = ['+', '0', '0', ':', '0', '0'] := by decide
  unfold Moment.internet
  simp only [String.toList_append, letter, zone, List.append_assoc, List.cons_append,
    List.nil_append]
  rw [Date.text_append_lt_iff plain plainToo, cons_lt_cons_self, TimeOfDay.text_append_lt_iff,
    Moment.lt_iff]
  rfl

/-- A moment whose stored text is less is shown as earlier. -/
theorem Moment.lt_of_stored_lt (less : first.stored.toList < second.stored.toList) :
    first.asShown < second.asShown := by
  have space : " ".toList = [' '] := by decide
  unfold Moment.stored at less
  simp only [String.toList_append, space, List.append_assoc, List.cons_append,
    List.nil_append] at less
  rw [Date.text_append_lt_iff plain plainToo, cons_lt_cons_self] at less
  exact Moment.lt_iff.mpr
    (less.imp_right fun ⟨same, earlier⟩ => ⟨same, TimeOfDay.lt_of_stored_lt earlier⟩)

end

/-! ### The characters of dates and times -/

theorem isAscii_dateText (date : Date) : IsAscii date.text.toList := by
  have hyphen : IsAscii "-".toList := by decide
  have year : IsAscii (yearText date.year).toList := by
    unfold yearText
    split
    · exact isAscii_paddedText 4 _
    · have sign : IsAscii (if date.year < 0 then "-" else "+").toList := by split <;> decide
      rw [String.toList_append]
      exact sign.append (isAscii_paddedText 4 _)
  unfold Date.text
  simp only [String.toList_append]
  exact (((year.append hyphen).append (isAscii_paddedText 2 _)).append hyphen).append
    (isAscii_paddedText 2 _)

theorem isAscii_clock (time : TimeOfDay) : IsAscii time.clock.toList := by
  have colon : IsAscii ":".toList := by decide
  unfold TimeOfDay.clock
  simp only [String.toList_append]
  exact ((((isAscii_paddedText 2 _).append colon).append (isAscii_paddedText 2 _)).append
    colon).append (isAscii_paddedText 2 _)

theorem isAscii_storedTime (time : TimeOfDay) : IsAscii time.stored.toList := by
  have point : IsAscii ".".toList := by decide
  unfold TimeOfDay.stored
  simp only [String.toList_append]
  exact ((isAscii_clock time).append point).append (isAscii_paddedText 6 _)

theorem isAscii_storedMoment (moment : Moment) : IsAscii moment.stored.toList := by
  have space : IsAscii " ".toList := by decide
  unfold Moment.stored
  simp only [String.toList_append]
  exact ((isAscii_dateText _).append space).append (isAscii_storedTime _)

theorem isAscii_internet (moment : Moment) : IsAscii moment.internet.toList := by
  have point : IsAscii ".".toList := by decide
  have letter : IsAscii "T".toList := by decide
  have zone : IsAscii "+00:00".toList := by decide
  have fraction : IsAscii moment.time.fraction.toList := by
    rcases moment.time.fraction_cases with ⟨-, unwritten⟩ | ⟨places, value, -, -, -, -, shown⟩
    · rw [unwritten]
      decide
    · rw [shown, String.toList_append]
      exact point.append (isAscii_paddedText places value)
  unfold Moment.internet TimeOfDay.text
  simp only [String.toList_append]
  exact (((isAscii_dateText _).append letter).append
    ((isAscii_clock _).append fraction)).append zone

end RecordMapper.Calendar
