/-
This file holds what travels between the library and a database connection: the eight kinds of
wire value, arguments, which name their kind even when absent, and the rows that come back. A
cell of a row is read as one wanted kind. Integer kinds can be read as each other as far as the
number fits; every other kind is read as itself only.
-/

import RecordMapper.Uuid

namespace RecordMapper

/-! ### Values on the wire -/

/-- The kinds of value that a connection transports. -/
inductive WireKind
  | bool
  | smallInt
  | int
  | bigInt
  | real
  | double
  | text
  | blob
  deriving DecidableEq

/-- A value in transport. -/
inductive WireValue
  | bool (value : Bool)
  | smallInt (value : Int16)
  | int (value : Int32)
  | bigInt (value : Int64)
  | real (pattern : UInt32)
  | double (pattern : UInt64)
  | text (value : String)
  | blob (value : List UInt8)
  deriving DecidableEq

/-- The word for a kind. -/
def WireKind.word : WireKind → String
  | .bool => "Bool"
  | .smallInt => "SmallInt"
  | .int => "Int"
  | .bigInt => "BigInt"
  | .real => "Real"
  | .double => "Double"
  | .text => "Text"
  | .blob => "Blob"

/-- The kind of a value in transport. -/
def WireValue.kind : WireValue → WireKind
  | .bool _ => .bool
  | .smallInt _ => .smallInt
  | .int _ => .int
  | .bigInt _ => .bigInt
  | .real _ => .real
  | .double _ => .double
  | .text _ => .text
  | .blob _ => .blob

/-- An argument of a statement: a value, or absence declared with a kind. -/
inductive WireArgument
  | absent (kind : WireKind)
  | present (value : WireValue)
  deriving DecidableEq

/-- A row as a connection delivers it; an absent cell has no kind. -/
abbrev Row := List (Option WireValue)

/-- The name of a kind in a connection's messages. -/
def WireKind.columnName : WireKind → String
  | .bool => "BOOLEAN"
  | .smallInt => "SMALLINT"
  | .int => "INTEGER"
  | .bigInt => "BIGINT"
  | .real => "REAL"
  | .double => "DOUBLE"
  | .text => "TEXT"
  | .blob => "BLOB"

end RecordMapper
