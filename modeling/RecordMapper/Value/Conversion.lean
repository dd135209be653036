/-
This file converts values between types. A conversion takes a value of any variant and answers
the value in the form in which the target type stores it, or the cause for refusing: integers
must lie in the range of the target, texts are read, and between dates and times only the parts
that are there can be taken. To coerce a value to a kind is to convert it to the type that
carries the kind; absence stays absence.
-/

import RecordMapper.Error

namespace RecordMapper

open RecordMapper.Calendar RecordMapper.Number RecordMapper.Text

namespace Conversion

/-! ### One function for each group of types -/

/-- A number in the form in which an integer type stores it. -/
def storeInteger (type : IntegerType) (number : Int) : Value :=
  match type.kind with
  | .smallInt => .smallInt (Int16.ofInt number)
  | .int => .int (Int32.ofInt number)
  | _ => .bigInt (Int64.ofInt number)

/-- Conversion to an integer type. -/
def toInteger (type : IntegerType) (value : Value) : Except ConversionFault Value :=
  match value.asInteger with
  | none => .error (.mismatch value (.integer type))
  | some number =>
    if type.least ≤ number.toInt ∧ number.toInt ≤ type.greatest then
      .ok (storeInteger type number.toInt)
    else .error (.outOfRange number.toInt type)

/-- The truth value that a text spells. -/
def truth? (text : String) : Option Bool :=
  let word := asciiLowered (trimmed text)
  if word = "true" ∨ word = "t" ∨ word = "1" then some true
  else if word = "false" ∨ word = "f" ∨ word = "0" then some false
  else none

/-- Conversion to a truth value. -/
def toBool (value : Value) : Except ConversionFault Value :=
  let found :=
    match value with
    | .bool truth => some truth
    | .text text => truth? text
    | other => other.asInteger.map (· != 0)
  match found with
  | some truth => .ok (.bool truth)
  | none => .error (.mismatch value .bool)

/-- Conversion to a number of 32 bits, by way of one of 64 bits. -/
def toFloat32 (value : Value) : Except ConversionFault Value :=
  match value with
  | .real pattern => .ok (.real pattern)
  | other =>
    match other.asDouble with
    | some pattern => .ok (.real (UInt32.ofNat (Value.reformat double single pattern.toNat)))
    | none => .error (.mismatch value .float32)

/-- Conversion to a number of 64 bits. -/
def toFloat64 (value : Value) : Except ConversionFault Value :=
  match value.asDouble with
  | some pattern => .ok (.double pattern)
  | none => .error (.mismatch value .float64)

/-- The text of a value: absence and bytes have none. -/
def textOf (value : Value) : Except ConversionFault String :=
  match value with
  | .text text => .ok text
  | .null | .blob _ => .error (.mismatch value .string)
  | other => .ok other.shown

/-- Conversion to text. -/
def toText (value : Value) : Except ConversionFault Value :=
  (textOf value).map .text

/-- Conversion to bytes. -/
def toBytes (value : Value) : Except ConversionFault Value :=
  match value with
  | .blob bytes => .ok (.blob bytes)
  | .text text => .ok (.blob text.toUTF8.data.toList)
  | other => .error (.mismatch other .bytes)

/-- Conversion to an identifier. -/
def toUuid (value : Value) : Except ConversionFault Value :=
  match value with
  | .uuid uuid => .ok (.uuid uuid)
  | .text text =>
    match Uuid.read text.toList with
    | .ok uuid => .ok (.uuid uuid)
    | .error defect => .error (.uuidText text defect)
  | .blob bytes =>
    match Uuid.readBytes bytes with
    | .ok uuid => .ok (.uuid uuid)
    | .error defect => .error (.uuidBytes defect)
  | other => .error (.mismatch other .uuid)

/-! ### Dates and times -/

/-- The day that a text names. -/
def dateOfText (text : String) : Except ConversionFault Date :=
  match date? text.toList with
  | some date => .ok date
  | none => .error (.dateText (trimmed text))

/-- The time of day that a text names. -/
def timeOfText (text : String) : Except ConversionFault TimeOfDay :=
  match readTime text.toList with
  | .ok time => .ok time
  | .error fault => .error (.timeText (trimmed text) fault)

/-- The moment that a text names. -/
def momentOfText (text : String) : Except ConversionFault Moment :=
  match moment? text.toList with
  | some moment => .ok moment
  | none => .error (.dateTimeText (trimmed text))

/-- The instant that a text names. -/
def instantOfText (text : String) : Except ConversionFault Moment :=
  match instant? text.toList with
  | some instant => .ok instant
  | none => .error (.instantText (trimmed text))

/-- Conversion to a day. -/
def toDate (value : Value) : Except ConversionFault Value :=
  match value with
  | .date date => .ok (.date date)
  | .dateTime moment | .timestamp moment => .ok (.date moment.date)
  | .text text => (dateOfText text).map .date
  | other => .error (.mismatch other .date)

/-- Conversion to a time of day. -/
def toTime (value : Value) : Except ConversionFault Value :=
  match value with
  | .time time => .ok (.time time)
  | .text text => (timeOfText text).map .time
  | other => .error (.mismatch other .time)

/-- Conversion to a moment. -/
def toDateTime (value : Value) : Except ConversionFault Value :=
  match value with
  | .dateTime moment | .timestamp moment => .ok (.dateTime moment)
  | .text text => (momentOfText text).map .dateTime
  | other => .error (.mismatch other .dateTime)

/-- Conversion to an instant. -/
def toInstant (value : Value) : Except ConversionFault Value :=
  match value with
  | .timestamp moment | .dateTime moment => .ok (.timestamp moment)
  | .text text => (instantOfText text).map .timestamp
  | other => .error (.mismatch other .instant)

end Conversion

/-! ### Conversion to any type -/

open Conversion in
/-- The value in the form in which the type stores it. -/
def ScalarType.convert (type : ScalarType) (value : Value) : Except ConversionFault Value :=
  match type with
  | .bool => toBool value
  | .integer type => toInteger type value
  | .float32 => toFloat32 value
  | .float64 => toFloat64 value
  | .string => toText value
  | .bytes => toBytes value
  | .uuid => toUuid value
  | .date => toDate value
  | .time => toTime value
  | .dateTime => toDateTime value
  | .instant => toInstant value

/-- The value in the form in which the type stores it; an optional type stores absence as such. -/
def ColumnType.convert (type : ColumnType) (value : Value) : Except ConversionFault Value :=
  match type.isOptional, value with
  | true, .null => .ok .null
  | _, _ => type.scalar.convert value

/-- The value in the form that a kind expects. Absence stays as it is, and so does every value
of a kind that the library does not map. -/
def Value.coerce (value : Value) (kind : Kind) : Except ConversionFault Value :=
  match value, kind.carrier? with
  | .null, _ => .ok .null
  | _, none => .ok value
  | _, some type => type.convert value

/-- The value for a field of a record. A missing value counts as absence, and a refusal names
the record and the field. -/
def ColumnType.decodeField (type : ColumnType) (record field : String) (value : Option Value) :
    Except ConversionFault Value :=
  (type.convert (value.getD .null)).mapError fun fault => .inField record field fault

end RecordMapper
