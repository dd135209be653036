/-
This file lists the kinds of value that a column can be declared with. A kind is independent
of any database product; what has no kind of its own is carried along under its name and needs
an explicit column type.
-/

import RecordMapper.Text.Quoted

namespace RecordMapper

/-- The declared kind of a column's values. -/
inductive Kind
  | bool
  | smallInt
  | int
  | bigInt
  | real
  | double
  | text
  | blob
  | uuid
  | date
  | time
  | dateTime
  | timestamp
  /-- A kind that the library does not map to a column type by itself. -/
  | other (name : String)
  deriving DecidableEq

namespace Kind

/-- Whether the kind's values are whole numbers. -/
def isInteger : Kind → Bool
  | .smallInt | .int | .bigInt => true
  | _ => false

/-- Whether the kind's values are floating-point numbers. -/
def isFloat : Kind → Bool
  | .real | .double => true
  | _ => false

/-- Whether the kind's values have no form of their own on the wire and travel as text. -/
def isTextual : Kind → Bool
  | .uuid | .date | .time | .dateTime | .timestamp => true
  | _ => false

/-- The word for the kind, without the name of an unmapped one. -/
def word : Kind → String
  | .bool => "Bool"
  | .smallInt => "SmallInt"
  | .int => "Int"
  | .bigInt => "BigInt"
  | .real => "Real"
  | .double => "Double"
  | .text => "Text"
  | .blob => "Blob"
  | .uuid => "Uuid"
  | .date => "Date"
  | .time => "Time"
  | .dateTime => "DateTime"
  | .timestamp => "Timestamp"
  | .other _ => "Other"

/-- The shown text of a kind. -/
def shown (kind : Kind) : String :=
  match kind with
  | .other name => kind.word ++ "(" ++ Text.quoted name ++ ")"
  | _ => kind.word

end Kind

end RecordMapper
