/-
This file holds the values that fields, filters and rows exchange. A value is absent or of one
of thirteen variants; floating-point values are kept as bit patterns, so that equality of
values is equality of what is stored. Beside the values stand the three views on which the rest
is built: whether a value is the default of its variant, its reading as a number, and its text.
-/

import RecordMapper.Calendar.Text
import RecordMapper.Number.Decimal
import RecordMapper.Uuid
import RecordMapper.Value.Kind

namespace RecordMapper

open RecordMapper.Calendar RecordMapper.Number RecordMapper.Text

/-- A single value of a column, or its absence. -/
inductive Value
  | null
  | bool (value : Bool)
  | smallInt (value : Int16)
  | int (value : Int32)
  | bigInt (value : Int64)
  /-- A number of 32 bits, given by its pattern. -/
  | real (pattern : UInt32)
  /-- A number of 64 bits, given by its pattern. -/
  | double (pattern : UInt64)
  | text (value : String)
  | blob (value : List UInt8)
  | uuid (value : Uuid)
  | date (value : Date)
  | time (value : TimeOfDay)
  | dateTime (value : Moment)
  /-- An instant, in universal time. -/
  | timestamp (value : Moment)
  deriving DecidableEq

namespace Value

/-- The absent value is what a missing one is taken to be. -/
instance : Inhabited Value := ⟨.null⟩

/-- Whether the value is absent. -/
def isNull : Value → Bool
  | .null => true
  | _ => false

/-! ### Defaults -/

/-- Whether a value is what its variant starts from: absence, false, zero, nothing, or the
beginning of the count of days and seconds. A field that holds its default counts as unset. -/
def isDefault : Value → Bool
  | .null => true
  | .bool value => !value
  | .smallInt value => value == 0
  | .int value => value == 0
  | .bigInt value => value == 0
  | .real pattern => single.isZero pattern.toNat
  | .double pattern => Number.double.isZero pattern.toNat
  | .text value => value.isEmpty
  | .blob value => value.isEmpty
  | .uuid value => value == Uuid.zero
  | .date value => value == Date.epoch
  | .time value => value == TimeOfDay.midnight
  | .dateTime value => value == Moment.epoch
  | .timestamp value => value == Moment.epoch

/-! ### Numbers -/

/-- The whole number in 64 bits, if it fits. -/
def int64? (value : Int) : Option Int64 :=
  if -Int.pow 2 63 ≤ value ∧ value < Int.pow 2 63 then some (Int64.ofInt value) else none

/-- The value as a whole number: a truth value counts as one or zero, and a text as the number
that is written in it. -/
def asInteger : Value → Option Int64
  | .bool value => some (if value then 1 else 0)
  | .smallInt value => some (Int64.ofInt value.toInt)
  | .int value => some (Int64.ofInt value.toInt)
  | .bigInt value => some value
  | .text value => (integer? (trim value.toList)).bind int64?
  | _ => none

/-- The pattern of a number of 32 bits in 64 bits, or the other way round, rounded. -/
def reformat (source target : BinaryFormat) (pattern : Nat) : Nat :=
  target.write (source.read pattern)

/-- The value as a floating-point number of 64 bits. -/
def asDouble : Value → Option UInt64
  | .real pattern => some (UInt64.ofNat (reformat single Number.double pattern.toNat))
  | .double pattern => some pattern
  | .text value => (Number.double.ofText? (trim value.toList)).map UInt64.ofNat
  | value => value.asInteger.map fun number => UInt64.ofNat (Number.double.ofInt number.toInt)

/-! ### Words and texts -/

/-- The word that messages use for a value's variant. -/
def variant : Value → String
  | .null => "NULL"
  | .bool _ => "bool"
  | .smallInt _ => "smallint"
  | .int _ => "int"
  | .bigInt _ => "bigint"
  | .real _ => "real"
  | .double _ => "double"
  | .text _ => "text"
  | .blob _ => "blob"
  | .uuid _ => "uuid"
  | .date _ => "date"
  | .time _ => "time"
  | .dateTime _ => "datetime"
  | .timestamp _ => "timestamp"

/-- The shown text of a value. -/
def shown : Value → String
  | .null => "NULL"
  | .bool value => if value then "true" else "false"
  | .smallInt value => integerText value.toInt
  | .int value => integerText value.toInt
  | .bigInt value => integerText value.toInt
  | .real pattern => decimalText single pattern.toNat
  | .double pattern => decimalText Number.double pattern.toNat
  | .text value => quoted value
  | .blob value => "<" ++ naturalText value.length ++ " bytes>"
  | .uuid value => value.text
  | .date value => value.text
  | .time value => value.text
  | .dateTime value => value.text
  | .timestamp value => value.internet

/-- The text in which dates and times are stored where the product reads the usual form, an
instant carrying its offset. -/
def isoText : Value → Option String
  | .date value => some value.text
  | .time value => some value.stored
  | .dateTime value => some value.stored
  | .timestamp value => some value.internet
  | _ => none

/-- The text in which dates and times are stored where the product knows no offsets. -/
def plainText : Value → Option String
  | .timestamp value => some value.stored
  | value => value.isoText

end Value

end RecordMapper
