/-
This file reads the parts of dates and times out of text along a pattern. A pattern is a list
of items: a part written as a number, a literal character, an optional fraction of a second,
blanks, an offset. Numbers may be preceded by blanks and take digits up to their width; a part
is checked against its range as soon as it is read. The text must be used up. What stands in
the way is named by one of four faults, and the first one met is the answer.
-/

import RecordMapper.Calendar.Moment
import RecordMapper.Text.Numeral

namespace RecordMapper.Calendar

open RecordMapper.Text

/-! ### Faults -/

/-- Why a text does not follow its pattern. -/
inductive Fault
  /-- The text ends where more was expected. -/
  | tooShort
  /-- A character stands where another was expected. -/
  | unexpected
  /-- A number is well written but names no part, day or time. -/
  | outOfRange
  /-- Text is left over. -/
  | tooLong
  deriving DecidableEq, Repr

/-- The wording of a fault. -/
def Fault.message : Fault → String
  | .tooShort => "premature end of input"
  | .unexpected => "input contains invalid characters"
  | .outOfRange => "input is out of range"
  | .tooLong => "trailing input"

/-! ### Parts -/

/-- The parts of a date and time that are written as numbers. -/
inductive Part
  | year | month | day | hour | minute | second
  deriving DecidableEq, Repr

/-- What has been read so far; a part that the pattern does not hold keeps its start value. -/
structure Reading where
  year : Int := 0
  month : Nat := 1
  day : Nat := 1
  hour : Nat := 0
  minute : Nat := 0
  second : Nat := 0
  nano : Nat := 0
  /-- The minutes by which the text is ahead of universal time. -/
  offset : Int := 0

/-- Notes a part, if the number is one that the part can have. -/
def Reading.note (reading : Reading) (part : Part) (value : Int) : Except Fault Reading :=
  let number := value.toNat
  match part with
  | .year =>
    if -Int.pow 2 31 ≤ value ∧ value < Int.pow 2 31 then .ok { reading with year := value }
    else .error .outOfRange
  | .month =>
    if 1 ≤ value ∧ value ≤ 12 then .ok { reading with month := number } else .error .outOfRange
  | .day =>
    if 1 ≤ value ∧ value ≤ 31 then .ok { reading with day := number } else .error .outOfRange
  | .hour => if value ≤ 23 then .ok { reading with hour := number } else .error .outOfRange
  | .minute => if value ≤ 59 then .ok { reading with minute := number } else .error .outOfRange
  | .second => if value ≤ 60 then .ok { reading with second := number } else .error .outOfRange

/-- The day that was read. -/
def Reading.date (reading : Reading) : Except Fault Date :=
  match Date.of? reading.year reading.month reading.day with
  | some date => .ok date
  | none => .error .outOfRange

/-- The time that was read; second sixty is the leap second after second fifty-nine. -/
def Reading.time (reading : Reading) : Except Fault TimeOfDay :=
  let time? :=
    if reading.second = 60 then
      TimeOfDay.of? reading.hour reading.minute 59 (nanosPerSecond + reading.nano)
    else TimeOfDay.of? reading.hour reading.minute reading.second reading.nano
  match time? with
  | some time => .ok time
  | none => .error .outOfRange

/-- The moment that was read, as it is written. -/
def Reading.moment (reading : Reading) : Except Fault Moment :=
  match reading.date, reading.time with
  | .ok date, .ok time => .ok ⟨date, time⟩
  | .error fault, _ => .error fault
  | _, .error fault => .error fault

/-- The moment that was read, brought to universal time. -/
def Reading.instant (reading : Reading) : Except Fault Moment :=
  match reading.moment with
  | .error fault => .error fault
  | .ok moment =>
    match moment.minutesEarlier? reading.offset with
    | some instant => .ok instant
    | none => .error .outOfRange

/-! ### Digits -/

/-- A number of at most so many digits, and what follows it. At least so many must be there. -/
def takeNumber (least most : Nat) (text : List Char) : Except Fault (Nat × List Char) :=
  let digits := (text.take most).takeWhile Char.isDigit
  if digits.length < least then
    if text.length < least then .error .tooShort else .error .unexpected
  else
    match readDigits 0 digits with
    | some value =>
      if value < Nat.pow 2 63 then .ok (value, text.drop digits.length) else .error .outOfRange
    | none => .error .unexpected

/-- The nanoseconds of a fraction; digits beyond the ninth count for nothing. -/
def takeFraction (text : List Char) : Except Fault (Nat × List Char) :=
  match takeNumber 1 9 text with
  | .error fault => .error fault
  | .ok (value, rest) =>
    .ok (value * Nat.pow 10 (9 - (text.length - rest.length)), rest.dropWhile Char.isDigit)

/-- A year: four digits at most, or any number of them after a sign. -/
def takeYear : List Char → Except Fault (Int × List Char)
  | '-' :: rest =>
    (takeNumber 1 rest.length rest).map fun (value, after) => (-(value : Int), after)
  | '+' :: rest =>
    (takeNumber 1 rest.length rest).map fun (value, after) => ((value : Int), after)
  | text => (takeNumber 1 4 text).map fun (value, after) => ((value : Int), after)

/-! ### Offsets -/

/-- What may stand between the hours and the minutes of an offset. -/
inductive OffsetStyle
  /-- Exactly one colon, and the minutes must follow. -/
  | strict
  /-- Any run of colons and blanks, and the minutes may be missing at the end of the text. -/
  | lenient
  deriving DecidableEq, Repr

/-- The text after what separates hours and minutes. -/
def OffsetStyle.skip (style : OffsetStyle) (text : List Char) : Except Fault (List Char) :=
  match style, text with
  | .lenient, text => .ok (text.dropWhile fun character => character == ':' || isBlank character)
  | .strict, [] => .error .tooShort
  | .strict, ':' :: rest => .ok rest
  | .strict, _ :: _ => .error .unexpected

/-- The minutes of an offset. -/
def OffsetStyle.minutes (style : OffsetStyle) : List Char → Except Fault (Nat × List Char)
  | [] => if style = .lenient then .ok (0, []) else .error .tooShort
  | [_] => .error .tooShort
  | tens :: ones :: rest =>
    match digitValue? tens, digitValue? ones with
    | some high, some low => if high < 6 then .ok (10 * high + low, rest) else .error .outOfRange
    | _, _ => .error .unexpected

/-- An offset in minutes: the letter Z, or a sign, two digits of hours and the minutes. -/
def takeOffset (style : OffsetStyle) (text : List Char) : Except Fault (Int × List Char) := do
  match text with
  | 'Z' :: rest => return (0, rest)
  | 'z' :: rest => return (0, rest)
  | [] => throw .tooShort
  | sign :: rest =>
    let negative ←
      if sign == '+' then pure false
      else if sign == '-' || sign == '\u2212' then pure true
      else throw .unexpected
    let (hours, afterHours) ← takeNumber 2 2 rest
    let (minutes, after) ← style.minutes (← style.skip afterHours)
    let total : Int := 60 * hours + minutes
    if 1440 ≤ total then throw .outOfRange
    return (if negative then -total else total, after)

/-! ### Patterns -/

/-- One item of a pattern. -/
inductive Item
  /-- A number after optional blanks. -/
  | part (which : Part)
  /-- A number of exactly so many digits. -/
  | fixed (which : Part) (digits : Nat)
  /-- One of the given characters. -/
  | oneOf (characters : List Char)
  /-- Any run of blanks. -/
  | blanks
  /-- A point and a fraction of a second, or nothing. -/
  | fraction
  /-- An offset, after blanks if the style is lenient. -/
  | offset (style : OffsetStyle)

/-- Reads one item. -/
def Item.read (item : Item) (reading : Reading) (text : List Char) :
    Except Fault (Reading × List Char) := do
  match item with
  | .part .year =>
    let (value, rest) ← takeYear (trimStart text)
    return (← reading.note .year value, rest)
  | .part which =>
    let (value, rest) ← takeNumber 1 2 (trimStart text)
    return (← reading.note which value, rest)
  | .fixed which digits =>
    let (value, rest) ← takeNumber digits digits text
    return (← reading.note which value, rest)
  | .oneOf characters =>
    match text with
    | [] => throw .tooShort
    | character :: rest =>
      if characters.contains character then return (reading, rest) else throw .unexpected
  | .blanks => return (reading, trimStart text)
  | .fraction =>
    match text with
    | '.' :: rest =>
      let (nano, after) ← takeFraction rest
      return ({ reading with nano := nano }, after)
    | _ => return (reading, text)
  | .offset style =>
    let (minutes, rest) ← takeOffset style (if style = .lenient then trimStart text else text)
    return ({ reading with offset := minutes }, rest)

/-- Reads a text along a pattern, and all of it. -/
def readPattern (reading : Reading) : List Item → List Char → Except Fault Reading
  | [], [] => .ok reading
  | [], _ :: _ => .error .tooLong
  | item :: items, text =>
    match item.read reading text with
    | .ok (further, rest) => readPattern further items rest
    | .error fault => .error fault

/-! ### The patterns in use -/

/-- Year, month and day with hyphens. -/
def datePattern : List Item :=
  [.part .year, .oneOf ['-'], .part .month, .oneOf ['-'], .part .day]

/-- Hour and minute with a colon. -/
def minutePattern : List Item :=
  [.part .hour, .oneOf [':'], .part .minute]

/-- Hour, minute, second and an optional fraction. -/
def timePattern : List Item :=
  minutePattern ++ [.oneOf [':'], .part .second, .fraction]

/-- A date and a time to the second, with blanks between them. -/
def spacedPattern : List Item :=
  datePattern ++ .blanks :: timePattern

/-- A date and a time to the second, with the letter T between them. -/
def letteredPattern : List Item :=
  datePattern ++ .oneOf ['T'] :: timePattern

/-- A date and a time to the minute, with blanks between them. -/
def spacedMinutePattern : List Item :=
  datePattern ++ .blanks :: minutePattern

/-- A date and a time to the second, followed by an offset. -/
def spacedOffsetPattern : List Item :=
  spacedPattern ++ [.offset .lenient]

/-- The pattern of internet timestamps: every number at its full width. -/
def internetPattern : List Item :=
  [.fixed .year 4, .oneOf ['-'], .fixed .month 2, .oneOf ['-'], .fixed .day 2,
    .oneOf ['T', 't', ' '], .fixed .hour 2, .oneOf [':'], .fixed .minute 2, .oneOf [':'],
    .fixed .second 2, .fraction, .offset .strict]

end RecordMapper.Calendar
