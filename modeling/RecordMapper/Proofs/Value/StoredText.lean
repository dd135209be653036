/-
This file proves what comes back of the texts in which dates and times are stored. There are two
forms: one carries the offset of an instant, the other knows no offsets; all else they write alike.
Days come back whole, and so does whatever is written with six digits of a fraction, to the
microsecond, in every year that the calendar has and in leap seconds too. The text of an instant
with its offset comes back in full, but only in the years of four digits: other years are written
with a sign, and a text with a sign, a letter before the hour and an offset is read by no pattern.
Neither form has a leap second that does not end a minute: it is written, compared and read back
like the second after it.
-/

import RecordMapper.Proofs.Calendar.Order
import RecordMapper.Value.Conversion

namespace RecordMapper

open Calendar Conversion

/-! ### Reading back -/

/-- The text of an instant with its offset is read back if its year has four digits, and refused
otherwise. -/
theorem instantOfText_internet (moment : Moment) :
    instantOfText moment.internet =
      if 0 ≤ moment.date.year ∧ moment.date.year ≤ 9999 then .ok moment.asShown
      else .error (.instantText moment.internet) := by
  by_cases plain : 0 ≤ moment.date.year ∧ moment.date.year ≤ 9999
  · rw [if_pos plain, instantOfText, instant?_internet plain.1 plain.2]
  · have whole : Text.trimmed moment.internet = moment.internet := by
      rw [Text.trimmed, trim_internet, String.ofList_toList]
    rw [if_neg plain, instantOfText, instant?_internet_eq_none plain, whole]

/-- Every date and time can be stored in both forms, and what is written in its place is read back
from what was stored to the last digit that was written, with one exception: the text with an offset
of an instant whose year does not have four digits is refused. What is written in place of a time is
the time itself, whether all its digits count or those to the microsecond, exactly if its leap
second is in its place. -/
theorem storedText_rereads (date : Date) (time : TimeOfDay) (moment : Moment) :
    (∃ text, (Value.date date).isoText = some text ∧
      (Value.date date).plainText = some text ∧ dateOfText text = .ok date) ∧
    (∃ text, (Value.time time).isoText = some text ∧
      (Value.time time).plainText = some text ∧
        timeOfText text = .ok time.asShown.toMicroseconds) ∧
    (∃ text, (Value.dateTime moment).isoText = some text ∧
      (Value.dateTime moment).plainText = some text ∧
        momentOfText text = .ok moment.asShown.toMicroseconds) ∧
    (∃ text, (Value.timestamp moment).plainText = some text ∧
      instantOfText text = .ok moment.asShown.toMicroseconds) ∧
    (∃ text, (Value.timestamp moment).isoText = some text ∧
      instantOfText text =
        if 0 ≤ moment.date.year ∧ moment.date.year ≤ 9999 then .ok moment.asShown
        else .error (.instantText text)) ∧
    (time.asShown.toMicroseconds = time.toMicroseconds ↔ time.HasPlainSecond) ∧
    (moment.asShown.toMicroseconds = moment.toMicroseconds ↔ moment.time.HasPlainSecond) ∧
    (moment.asShown = moment ↔ moment.time.HasPlainSecond) := by
  refine ⟨⟨_, rfl, rfl, ?_⟩, ⟨_, rfl, rfl, ?_⟩, ⟨_, rfl, rfl, ?_⟩, ⟨_, rfl, ?_⟩,
    ⟨_, rfl, instantOfText_internet moment⟩, TimeOfDay.toMicroseconds_asShown_eq_iff,
    Moment.toMicroseconds_asShown_eq_iff, Moment.asShown_eq_self_iff⟩
  · rw [dateOfText, date?_text]
  · rw [timeOfText, readTime_stored]
  · rw [momentOfText, moment?_stored]
  · rw [instantOfText, instant?_stored]

/-- The first instant whose year has five digits. -/
def tenThousand : Moment := ⟨⟨10000, 1, 1, by decide⟩, TimeOfDay.midnight⟩

/-- Not every instant is read back from its text with an offset. -/
theorem tenThousand_unread :
    (Value.timestamp tenThousand).isoText = some "+10000-01-01T00:00:00+00:00" ∧
      instantOfText "+10000-01-01T00:00:00+00:00" =
        .error (.instantText "+10000-01-01T00:00:00+00:00") ∧
      ¬ ∀ moment : Moment, ∃ text, (Value.timestamp moment).isoText = some text ∧
        instantOfText text = .ok moment := by
  have written : (Value.timestamp tenThousand).isoText = some "+10000-01-01T00:00:00+00:00" := by
    decide +kernel
  have refused : instantOfText "+10000-01-01T00:00:00+00:00" =
      .error (.instantText "+10000-01-01T00:00:00+00:00") := by
    rw [← Option.some.inj written]
    exact (instantOfText_internet tenThousand).trans (if_neg (by decide))
  refine ⟨written, refused, fun reads => ?_⟩
  obtain ⟨text, same, read⟩ := reads tenThousand
  cases written.symm.trans same
  cases refused.symm.trans read

/-! ### Comparing bytes -/

open Text in
/-- In the years of four digits, the bytes of what is stored stand in the order of what is written:
strictly for days and for instants with their offset, which are written in full, and weakly for
times and moments, which are written to the microsecond. What is written in place of a time is the
time itself exactly if its leap second is in its place. -/
theorem storedText_ordered :
    (∀ first second : Date, first.HasPlainYear → second.HasPlainYear → ∃ text other,
      (Value.date first).isoText = some text ∧ (Value.date second).isoText = some other ∧
        (first < second ↔ utf8 text < utf8 other)) ∧
    (∀ first second : Moment, first.date.HasPlainYear → second.date.HasPlainYear → ∃ text other,
      (Value.timestamp first).isoText = some text ∧
        (Value.timestamp second).isoText = some other ∧
          (first.asShown < second.asShown ↔ utf8 text < utf8 other)) ∧
    (∀ first second : TimeOfDay, ∃ text other, (Value.time first).isoText = some text ∧
      (Value.time second).isoText = some other ∧
        (first.asShown ≤ second.asShown → utf8 text ≤ utf8 other)) ∧
    (∀ first second : Moment, first.date.HasPlainYear → second.date.HasPlainYear → ∃ text other,
      (Value.dateTime first).isoText = some text ∧
        (Value.dateTime second).isoText = some other ∧
          (first.asShown ≤ second.asShown → utf8 text ≤ utf8 other)) ∧
    (∀ time : TimeOfDay, time.asShown = time ↔ time.HasPlainSecond) ∧
    ∀ moment : Moment, moment.asShown = moment ↔ moment.time.HasPlainSecond := by
  refine ⟨fun first second plain plainToo => ⟨_, _, rfl, rfl, ?_⟩,
    fun first second plain plainToo => ⟨_, _, rfl, rfl, ?_⟩,
    fun first second => ⟨_, _, rfl, rfl, fun ordered => ?_⟩,
    fun first second plain plainToo => ⟨_, _, rfl, rfl, fun ordered => ?_⟩,
    fun _ => TimeOfDay.asShown_eq_self_iff, fun _ => Moment.asShown_eq_self_iff⟩
  · have whole : first.text.toList ++ [] < second.text.toList ++ [] ↔ _ :=
      Date.text_append_lt_iff plain plainToo
    rw [List.append_nil, List.append_nil] at whole
    rw [utf8_lt_iff (isAscii_dateText first) (isAscii_dateText second), whole]
    simp
  · rw [utf8_lt_iff (isAscii_internet first) (isAscii_internet second),
      Moment.internet_lt_iff plain plainToo]
  · refine List.not_lt.mp fun less => ?_
    rw [utf8_lt_iff (isAscii_storedTime second) (isAscii_storedTime first)] at less
    exact absurd ordered (not_le_of_gt (TimeOfDay.lt_of_stored_lt less))
  · refine List.not_lt.mp fun less => ?_
    rw [utf8_lt_iff (isAscii_storedMoment second) (isAscii_storedMoment first)] at less
    exact absurd ordered (not_le_of_gt (Moment.lt_of_stored_lt plainToo plain less))

/-- An instant within the leap second with which the year 2016 ended. -/
def leapSecond (nano : Nat) (small : nano < nanosPerSecond) : Moment :=
  ⟨⟨2016, 12, 31, by decide⟩, ⟨23, 59, 59, nanosPerSecond + nano, by
    unfold IsTime nanosPerSecond at *
    omega⟩⟩

open Text in
/-- A leap second begins before its first nanosecond is over, and so it is in bytes: the text that
is written without a fraction is the lesser one. -/
theorem storedText_ordered_leapSecond :
    (leapSecond 0 (by decide)).date.HasPlainYear ∧
      leapSecond 0 (by decide) < leapSecond 1 (by decide) ∧
      utf8 "2016-12-31T23:59:60+00:00" < utf8 "2016-12-31T23:59:60.000000001+00:00" := by
  have plain (nano : Nat) (small : nano < nanosPerSecond) :
      (leapSecond nano small).date.HasPlainYear :=
    (by decide : (0 : Int) ≤ 2016 ∧ (2016 : Int) ≤ 9999)
  have shown (nano : Nat) (small : nano < nanosPerSecond) :
      (leapSecond nano small).asShown = leapSecond nano small :=
    Moment.asShown_eq_self_iff.mpr (.inr rfl)
  have earlier : leapSecond 0 (by decide) < leapSecond 1 (by decide) :=
    Moment.lt_iff.mpr (.inr ⟨rfl, .inr (by decide)⟩)
  obtain ⟨text, other, written, writtenToo, ordered⟩ :=
    storedText_ordered.2.1 _ _ (plain 0 (by decide)) (plain 1 (by decide))
  have start : (Value.timestamp (leapSecond 0 (by decide))).isoText =
      some "2016-12-31T23:59:60+00:00" := by decide +kernel
  have later : (Value.timestamp (leapSecond 1 (by decide))).isoText =
      some "2016-12-31T23:59:60.000000001+00:00" := by decide +kernel
  cases start.symm.trans written
  cases later.symm.trans writtenToo
  rw [shown, shown] at ordered
  exact ⟨plain 0 (by decide), earlier, ordered.mp earlier⟩

/-- An instant in a leap second after the fifth second of a minute. -/
def strayInstant : Moment := ⟨⟨2024, 1, 1, by decide⟩, ⟨10, 0, 4, 1500000000, by decide⟩⟩

/-- An instant in the second after that. -/
def tenthInstant : Moment := ⟨⟨2024, 1, 1, by decide⟩, ⟨10, 0, 5, 100000000, by decide⟩⟩

open Text in
/-- Not all instants stand in the order of their texts: a leap second that does not end a minute is
written like the second after it, and that may be later than an instant in that second. -/
theorem strayInstant_outOfOrder :
    strayInstant < tenthInstant ∧
      (Value.timestamp strayInstant).isoText = some "2024-01-01T10:00:05.500+00:00" ∧
      (Value.timestamp tenthInstant).isoText = some "2024-01-01T10:00:05.100+00:00" ∧
      ¬ ∀ first second : Moment, first.date.HasPlainYear → second.date.HasPlainYear →
        ∃ text other, (Value.timestamp first).isoText = some text ∧
          (Value.timestamp second).isoText = some other ∧
            (first < second ↔ utf8 text < utf8 other) := by
  have earlier : strayInstant < tenthInstant := Moment.lt_iff.mpr (.inr ⟨rfl, .inl (by decide)⟩)
  have stray : (Value.timestamp strayInstant).isoText = some "2024-01-01T10:00:05.500+00:00" := by
    decide +kernel
  have tenth : (Value.timestamp tenthInstant).isoText = some "2024-01-01T10:00:05.100+00:00" := by
    decide +kernel
  refine ⟨earlier, stray, tenth, fun ordered => ?_⟩
  have plain : (0 : Int) ≤ 2024 ∧ (2024 : Int) ≤ 9999 := by decide
  obtain ⟨text, other, written, writtenToo, keeps⟩ := ordered strayInstant tenthInstant plain plain
  cases stray.symm.trans written
  cases tenth.symm.trans writtenToo
  exact absurd (keeps.mp earlier) (by decide +kernel)

end RecordMapper
