/-
This file holds lengths of time and their shown text. A length is shown in the largest of the
units second, millisecond, microsecond and nanosecond of which it has at least one, with as
many decimal places as it needs and no more.
-/

import RecordMapper.Text.Numeral

namespace RecordMapper.Calendar

open RecordMapper.Text

/-- A length of time in nanoseconds. -/
structure Duration where
  nanos : Nat
  deriving DecidableEq

namespace Duration

/-- So many microseconds. -/
def ofMicros (micros : Nat) : Duration := ⟨1000 * micros⟩

/-- So many milliseconds. -/
def ofMillis (millis : Nat) : Duration := ⟨1000000 * millis⟩

/-- So many seconds. -/
def ofSeconds (seconds : Nat) : Duration := ⟨1000000000 * seconds⟩

/-- A count of units with the rest behind a point, where ten to the `places` make one unit. -/
def inUnit (nanos places : Nat) (unit : String) : String :=
  let rest := (paddedText places (nanos % Nat.pow 10 places)).toList.reverse.dropWhile (· == '0')
  let fraction := if places = 0 ∨ rest.isEmpty then "" else "." ++ String.ofList rest.reverse
  naturalText (nanos / Nat.pow 10 places) ++ fraction ++ unit

/-- The shown text of a length of time. -/
def text (duration : Duration) : String :=
  let nanos := duration.nanos
  if 1000000000 ≤ nanos then inUnit nanos 9 "s"
  else if 1000000 ≤ nanos then inUnit nanos 6 "ms"
  else if 1000 ≤ nanos then inUnit nanos 3 "µs"
  else inUnit nanos 0 "ns"

end Duration

end RecordMapper.Calendar
