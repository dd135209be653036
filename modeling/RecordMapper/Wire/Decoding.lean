/-
This file reads the cells of a row as values of a column's kind. Databases answer in the narrowest
form they have, so a cell is taken in any form that makes sense for the kind: integers of every
width as the widest, a truth value where an integer was expected, a number where text was. What a
cell of the wrong form was wanted as is part of the report. Absence is never wrong.
-/

import RecordMapper.Error

namespace RecordMapper

/-- The value that is in transport. -/
def WireValue.value : WireValue → Value
  | .bool value => .bool value
  | .smallInt value => .smallInt value
  | .int value => .int value
  | .bigInt value => .bigInt value
  | .real pattern => .real pattern
  | .double pattern => .double pattern
  | .text value => .text value
  | .blob value => .blob value

end RecordMapper

namespace RecordMapper.Wire

/-- The report that a column's cell was wanted in another form. -/
def unreadable (column : Nat) (wanted : WireKind) (cell : WireValue) : Except DatabaseFault Value :=
  .error (.unreadable column wanted cell.kind)

/-- The cell as a whole number, or as a truth value. -/
def integer? : WireValue → Option Value
  | .smallInt value => some (.bigInt (Int64.ofInt value.toInt))
  | .int value => some (.bigInt (Int64.ofInt value.toInt))
  | .bigInt value => some (.bigInt value)
  | .bool value => some (.bool value)
  | _ => none

/-- The cell as a number of either sort, or as a truth value. -/
def number? : WireValue → Option Value
  | .double pattern => some (.double pattern)
  | .real pattern => some (.real pattern)
  | cell => integer? cell

/-- A cell that is present as a value of a kind. -/
def decodePresent (column : Nat) (cell : WireValue) (kind : Kind) : Except DatabaseFault Value :=
  match kind with
  | .bool | .smallInt | .int | .bigInt =>
    match integer? cell with
    | some value => .ok value
    | none => unreadable column .bool cell
  | .real | .double =>
    match number? cell with
    | some value => .ok value
    | none => unreadable column .bool cell
  | .blob =>
    match cell with
    | .blob value => .ok (.blob value)
    | other => unreadable column .blob other
  | .text | .uuid | .date | .time | .dateTime | .timestamp =>
    match cell, number? cell with
    | .text value, _ => .ok (.text value)
    | _, some value => .ok value
    | other, none => unreadable column .text other
  | .other _ =>
    match cell, number? cell with
    | .text value, _ => .ok (.text value)
    | .blob value, _ => .ok (.blob value)
    | _, some value => .ok value
    | other, none => unreadable column .blob other

/-- The cell of a row's column as a value of a kind. -/
def decode (row : Row) (column : Nat) (kind : Kind) : Except DatabaseFault Value :=
  match row[column]? with
  | none => .error (.outOfColumns column row.length)
  | some none => .ok .null
  | some (some cell) => decodePresent column cell kind

end RecordMapper.Wire
