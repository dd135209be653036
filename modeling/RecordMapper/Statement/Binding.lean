/-
This file turns the arguments of a statement into what travels on the wire. Values that the wire
has a kind for travel as they are; identifiers travel as text, and dates and times as the text
that the dialect gives them. Absence is declared with the kind of its column. A statement whose
dialect has no text for a value cannot be bound.
-/

import RecordMapper.Statement.Basic

namespace RecordMapper

/-- The kind as which absence of a column's kind is declared. -/
def Kind.wire : Kind → WireKind
  | .bool => .bool
  | .smallInt => .smallInt
  | .int => .int
  | .bigInt => .bigInt
  | .real => .real
  | .double => .double
  | .blob => .blob
  | _ => .text

/-- The form in which a value travels as it is, if the wire has a kind for it. -/
def Value.wire? : Value → Option WireValue
  | .bool value => some (.bool value)
  | .smallInt value => some (.smallInt value)
  | .int value => some (.int value)
  | .bigInt value => some (.bigInt value)
  | .real pattern => some (.real pattern)
  | .double pattern => some (.double pattern)
  | .text value => some (.text value)
  | .blob value => some (.blob value)
  | _ => none

/-- The text as which a value travels that the wire has no kind for. -/
def Dialect.wireText (dialect : Dialect) : Value → Option String
  | .uuid value => some value.text
  | value => dialect.temporalText value

/-- One argument as it travels. -/
def Dialect.bindArgument (dialect : Dialect) (argument : Argument) :
    Except ConversionFault WireArgument :=
  let (value, kind) := argument
  match value, value.wire?, dialect.wireText value with
  | .null, _, _ => .ok (.absent kind.wire)
  | _, some wire, _ => .ok (.present wire)
  | _, none, some text => .ok (.present (.text text))
  | _, none, none => .error (.unbindable value)

/-- All arguments of a statement as they travel. -/
def Statement.wire (statement : Statement) (dialect : Dialect) :
    Except ConversionFault (List WireArgument) :=
  statement.arguments.mapM dialect.bindArgument

end RecordMapper
