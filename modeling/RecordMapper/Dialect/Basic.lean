/-
This file says what a dialect of SQL is: the answers to all questions on which database products
differ, from the quoting of names to the type of a column. What the library writes is the same
for every dialect and is built from these answers. A quoted name has its quote characters doubled
inside, so that it ends where it should whatever follows.
-/

import RecordMapper.Error
import RecordMapper.Model.Basic

namespace RecordMapper

open RecordMapper.Text

/-! ### Quoting -/

/-- A text between quotes, every quote inside doubled. -/
def quotedName (quote : Char) (name : List Char) : List Char :=
  let doubled := name.flatMap fun character =>
    if character == quote then [quote, quote] else [character]
  quote :: doubled ++ [quote]

/-! ### Dialects -/

/-- The answers that tell one database product from another. -/
structure Dialect where
  name : String
  quoteCharacter : Char := '"'
  /-- The marker of the argument at a position, counted from one. -/
  placeholder : Nat → String := fun _ => "?"
  /-- What follows the marker of an argument of a kind. -/
  bindCast : Kind → String := fun _ => ""
  /-- The type of a column that states none. -/
  baseType : Field → Except TypeFault String
  /-- The type of a generated key, where it is spelled as a type. -/
  serialType : Field → Option String := fun _ => none
  /-- What follows the type of a key. -/
  keyClause : Field → Except TypeFault String :=
    fun field => .ok (if field.isInlineKey then " PRIMARY KEY" else "")
  /-- The default of a column as the product wants it written. -/
  defaultExpression : Field → String → String := fun _ expression => expression
  /-- The expression that selects a field's quoted column in a readable form. -/
  selectExpression : Field → String → String := fun _ column => column
  /-- Whether an insertion has to ask for the generated key. -/
  asksForKey : Bool := false
  /-- Whether indexes are declared within the table. -/
  hasInlineIndexes : Bool := false
  /-- What stands for no limit. -/
  unboundedLimit : String
  /-- The text as which a date or time is bound. -/
  temporalText : Value → Option String := Value.isoText
  /-- What follows the table in an insertion that names no column. -/
  emptyRow : String := " DEFAULT VALUES"
  /-- The statement that creates a history table, given its quoted name and a quoting. -/
  historyTable : String → (String → String) → String

namespace Dialect

/-! ### What follows from the answers -/

/-- A name between quotes. -/
def quote (dialect : Dialect) (name : String) : String :=
  String.ofList (quotedName dialect.quoteCharacter name.toList)

/-- Names between quotes, separated by commas. -/
def quoteAll (dialect : Dialect) (names : List String) : String :=
  ", ".intercalate (names.map dialect.quote)

/-- The type of a field's column before any clause: the stated one, else that of a generated key,
else that of the kind. -/
def bareType (dialect : Dialect) (field : Field) : Except TypeFault String :=
  match field.sqlType, field.isAutoIncrement, dialect.serialType field with
  | some stated, _, _ => .ok stated
  | none, true, some serial => .ok serial
  | none, _, _ => dialect.baseType field

/-- The clauses that follow the type and the key clause of a column. -/
def constraints (dialect : Dialect) (field : Field) : String :=
  (if field.isRequired && !field.isInlineKey then " NOT NULL" else "") ++
    match field.defaultValue with
    | some expression => " DEFAULT " ++ dialect.defaultExpression field expression
    | none => ""

/-- The type and all clauses of a field's column. -/
def columnType (dialect : Dialect) (field : Field) : Except TypeFault String := do
  if field.isAutoIncrement && !field.kind.isInteger then
    throw (.notAnInteger field.kind)
  let bare ← dialect.bareType field
  let key ← dialect.keyClause field
  return bare ++ key ++ dialect.constraints field

/-- The expression that selects a field's column. -/
def selectColumn (dialect : Dialect) (field : Field) : String :=
  dialect.selectExpression field (dialect.quote field.column)

/-- What an insertion asks back for, if the product needs to be asked for a generated key. -/
def returning (dialect : Dialect) (column : String) : Option String :=
  if dialect.asksForKey then some (" RETURNING " ++ dialect.quote column) else none

/-- The end of a query that takes so many rows after leaving out so many. Leaving out rows
without a limit needs the text for no limit. -/
def limitOffset (dialect : Dialect) : Option Nat → Option Nat → String
  | none, none => ""
  | some limit, none => " LIMIT " ++ naturalText limit
  | some limit, some offset => " LIMIT " ++ naturalText limit ++ " OFFSET " ++ naturalText offset
  | none, some offset => " LIMIT " ++ dialect.unboundedLimit ++ " OFFSET " ++ naturalText offset

/-- The insertion of a row that consists of defaults. -/
def insertDefaults (dialect : Dialect) (table : String) : String :=
  "INSERT INTO " ++ dialect.quote table ++ dialect.emptyRow

/-! ### The history of migrations -/

/-- The statement that creates a history table. -/
def createHistory (dialect : Dialect) (table : String) : String :=
  dialect.historyTable (dialect.quote table) dialect.quote

/-- The statement that lists what a history table holds. -/
def listHistory (dialect : Dialect) (table : String) : String :=
  let column := dialect.quote "id"
  "SELECT " ++ column ++ " FROM " ++ dialect.quote table ++ " ORDER BY " ++ column

/-- The statement that adds to a history table. -/
def addHistory (dialect : Dialect) (table : String) : String :=
  "INSERT INTO " ++ dialect.quote table ++ " (" ++ dialect.quote "id" ++ ") VALUES (" ++
    dialect.placeholder 1 ++ ")"

/-- The statement that removes from a history table. -/
def removeHistory (dialect : Dialect) (table : String) : String :=
  "DELETE FROM " ++ dialect.quote table ++ " WHERE " ++ dialect.quote "id" ++ " = " ++
    dialect.placeholder 1

end Dialect

/-! ### Types with numbers -/

/-- The type of a text of limited size, or else an unlimited one. -/
def sizedText (field : Field) (unlimited : String) : String :=
  match field.size with
  | some size => "VARCHAR(" ++ naturalText size ++ ")"
  | none => unlimited

/-- The type of a number of stated precision, or else a floating-point type. -/
def decimalOr (name : String) (field : Field) (floating : String) : String :=
  match field.precision, field.scale with
  | some precision, some scale =>
    name ++ "(" ++ naturalText precision ++ "," ++ naturalText scale ++ ")"
  | some precision, none => name ++ "(" ++ naturalText precision ++ ")"
  | none, _ => floating

end RecordMapper
