/-
This file lists the types that a record's field can have. Each type stores its values under one
kind, and several integer types share a kind that is wider than they are. A column type is such
a scalar type, or the same with absence allowed.
-/

import RecordMapper.Value.Kind

namespace RecordMapper

/-! ### Integer types -/

/-- A type of whole numbers. -/
inductive IntegerType
  | int8
  | int16
  | uint8
  | int32
  | uint16
  | int64
  | uint32
  deriving DecidableEq

namespace IntegerType

/-- The least number of a type. -/
def least : IntegerType → Int
  | .int8 => -128
  | .int16 => -32768
  | .int32 => -2147483648
  | .int64 => -9223372036854775808
  | .uint8 | .uint16 | .uint32 => 0

/-- The greatest number of a type. -/
def greatest : IntegerType → Int
  | .int8 => 127
  | .int16 => 32767
  | .uint8 => 255
  | .int32 => 2147483647
  | .uint16 => 65535
  | .int64 => 9223372036854775807
  | .uint32 => 4294967295

/-- The name that messages use for a type. -/
def label : IntegerType → String
  | .int8 => "i8"
  | .int16 => "i16"
  | .uint8 => "u8"
  | .int32 => "i32"
  | .uint16 => "u16"
  | .int64 => "i64"
  | .uint32 => "u32"

/-- The kind under which a type's numbers are stored. -/
def kind : IntegerType → Kind
  | .int8 | .int16 | .uint8 => .smallInt
  | .int32 | .uint16 => .int
  | .int64 | .uint32 => .bigInt

end IntegerType

/-! ### Scalar types -/

/-- A type of field values that are always present. -/
inductive ScalarType
  | bool
  | integer (type : IntegerType)
  | float32
  | float64
  | string
  | bytes
  | uuid
  | date
  | time
  | dateTime
  | instant
  deriving DecidableEq

namespace ScalarType

/-- All scalar types. -/
def all : List ScalarType :=
  [.bool, .integer .int8, .integer .int16, .integer .uint8, .integer .int32, .integer .uint16,
    .integer .int64, .integer .uint32, .float32, .float64, .string, .bytes, .uuid, .date, .time,
    .dateTime, .instant]

/-- The name that messages use for a type. -/
def label : ScalarType → String
  | .bool => "bool"
  | .integer type => type.label
  | .float32 => "f32"
  | .float64 => "f64"
  | .string => "String"
  | .bytes => "Vec<u8>"
  | .uuid => "Uuid"
  | .date => "NaiveDate"
  | .time => "NaiveTime"
  | .dateTime => "NaiveDateTime"
  | .instant => "DateTime<Utc>"

/-- The kind under which a type's values are stored. -/
def kind : ScalarType → Kind
  | .bool => .bool
  | .integer type => type.kind
  | .float32 => .real
  | .float64 => .double
  | .string => .text
  | .bytes => .blob
  | .uuid => .uuid
  | .date => .date
  | .time => .time
  | .dateTime => .dateTime
  | .instant => .timestamp

end ScalarType

/-! ### Kinds and column types -/

/-- The type that holds every value of a kind, for the kinds that have one. -/
def Kind.carrier? : Kind → Option ScalarType
  | .bool => some .bool
  | .smallInt => some (.integer .int16)
  | .int => some (.integer .int32)
  | .bigInt => some (.integer .int64)
  | .real => some .float32
  | .double => some .float64
  | .text => some .string
  | .blob => some .bytes
  | .uuid => some .uuid
  | .date => some .date
  | .time => some .time
  | .dateTime => some .dateTime
  | .timestamp => some .instant
  | .other _ => none

/-- A type of field values: a scalar type, and whether a value may be absent. -/
structure ColumnType where
  scalar : ScalarType
  isOptional : Bool
  deriving DecidableEq

/-- The kind under which a column type's values are stored. -/
def ColumnType.kind (type : ColumnType) : Kind :=
  type.scalar.kind

end RecordMapper
