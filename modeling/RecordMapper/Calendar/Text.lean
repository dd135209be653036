/-
This file reads dates, times and moments from the shapes in which databases hand them back,
and writes them. Several patterns are tried in turn and the first that fits the whole text,
blanks around it apart, gives the value; a text without an offset is taken to be in universal
time. Two kinds of writing are kept apart: the shown text, whose fraction is as long as it
needs to be in steps of three digits, and the stored text, whose fraction always has six.
-/

import RecordMapper.Calendar.Pattern

namespace RecordMapper.Calendar

open RecordMapper.Text

/-! ### Reading -/

/-- What a pattern reads from a text, if it fits. -/
def readAs {Value : Type} (pattern : List Item) (finish : Reading → Except Fault Value)
    (text : List Char) : Except Fault Value :=
  match readPattern {} pattern text with
  | .ok reading => finish reading
  | .error fault => .error fault

/-- The value of the first attempt that succeeds. -/
def firstFit {Value : Type} (attempts : List (Except Fault Value)) : Option Value :=
  attempts.findSome? fun attempt => attempt.toOption

/-- A moment without an offset: date and time with blanks or a T between them, with or without
seconds, or else an internet timestamp, which is brought to universal time. -/
def moment? (text : List Char) : Option Moment :=
  let text := trim text
  firstFit
    [readAs spacedPattern Reading.moment text, readAs letteredPattern Reading.moment text,
      readAs spacedMinutePattern Reading.moment text, readAs internetPattern Reading.instant text]

/-- An instant: a text with an offset is brought to universal time, one without is in it. -/
def instant? (text : List Char) : Option Moment :=
  let text := trim text
  let readings :=
    [readAs internetPattern Reading.instant text, readAs spacedOffsetPattern Reading.instant text]
  match firstFit readings with
  | some instant => some instant
  | none => moment? text

/-- A day: written alone, or the day of a moment. -/
def date? (text : List Char) : Option Date :=
  let text := trim text
  match firstFit [readAs datePattern Reading.date text] with
  | some date => some date
  | none => (moment? text).map Moment.date

/-- A time of day, with or without seconds. The fault is that of the reading without them. -/
def readTime (text : List Char) : Except Fault TimeOfDay :=
  let text := trim text
  match readAs timePattern Reading.time text with
  | .ok time => .ok time
  | .error _ => readAs minutePattern Reading.time text

/-! ### Writing -/

/-- A year in four digits; outside of those, with a sign and at least four. -/
def yearText (year : Int) : String :=
  if 0 ≤ year ∧ year ≤ 9999 then paddedText 4 year.toNat
  else (if year < 0 then "-" else "+") ++ paddedText 4 year.natAbs

/-- Year, month and day with hyphens. -/
def Date.text (date : Date) : String :=
  yearText date.year ++ "-" ++ paddedText 2 date.month ++ "-" ++ paddedText 2 date.day

/-- Hour, minute and second with colons. -/
def TimeOfDay.clock (time : TimeOfDay) : String :=
  paddedText 2 time.hour ++ ":" ++ paddedText 2 time.minute ++ ":" ++ paddedText 2 time.shownSecond

/-- The fraction of a second in as many steps of three digits as it needs, or none. -/
def TimeOfDay.fraction (time : TimeOfDay) : String :=
  let nano := time.shownNano
  if nano = 0 then ""
  else if nano % 1000000 = 0 then "." ++ paddedText 3 (nano / 1000000)
  else if nano % 1000 = 0 then "." ++ paddedText 6 (nano / 1000)
  else "." ++ paddedText 9 nano

/-- The shown text of a time of day. -/
def TimeOfDay.text (time : TimeOfDay) : String :=
  time.clock ++ time.fraction

/-- The stored text of a time of day: microseconds, the rest being cut off. -/
def TimeOfDay.stored (time : TimeOfDay) : String :=
  time.clock ++ "." ++ paddedText 6 (time.shownNano / 1000)

/-- The shown text of a moment, with a space between date and time. -/
def Moment.text (moment : Moment) : String :=
  moment.date.text ++ " " ++ moment.time.text

/-- The stored text of a moment. -/
def Moment.stored (moment : Moment) : String :=
  moment.date.text ++ " " ++ moment.time.stored

/-- The text of an instant as an internet timestamp in universal time. -/
def Moment.internet (moment : Moment) : String :=
  moment.date.text ++ "T" ++ moment.time.text ++ "+00:00"

end RecordMapper.Calendar
