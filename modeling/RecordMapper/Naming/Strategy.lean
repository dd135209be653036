/-
This file says how tables, columns and indexes are named. A strategy is three functions and the
text under which it is shown. The usual one gives tables the plural of the record's name in snake
case, of which only the last word is put in the plural, and columns the field's name in snake
case. Every strategy here names an index after its kind, its table and its column, cut off where
the smallest limit of the supported products requires it, but never inside a character.
-/

import RecordMapper.Naming.Plural
import RecordMapper.Naming.SnakeCase
import RecordMapper.Text.Quoted

namespace RecordMapper.Naming

open RecordMapper.Text

/-! ### Index names -/

/-- The most bytes that an index name takes. -/
def indexNameLimit : Nat := 63

/-- The longest opening of a text that takes no more than so many bytes. -/
def takeBytes : Nat → List Char → List Char
  | _, [] => []
  | room, character :: rest =>
    if character.utf8Size ≤ room then character :: takeBytes (room - character.utf8Size) rest
    else []

/-- The name of an index that was declared without one. -/
def indexName (lead table column : String) : String :=
  String.ofList (takeBytes indexNameLimit (lead ++ "_" ++ table ++ "_" ++ column).toList)

end RecordMapper.Naming

namespace RecordMapper

open RecordMapper.Text RecordMapper.Naming

/-! ### Strategies -/

/-- A way of naming tables, columns and indexes. -/
structure NamingStrategy where
  /-- The table of a record. -/
  table : String → String
  /-- The column of a field. -/
  column : String → String
  /-- The index of a given kind over a table's column. -/
  index : String → String → String → String := indexName
  /-- The text under which the strategy is shown. -/
  shown : String

namespace NamingStrategy

/-- The table name of a record: snake case with the last word in the plural. -/
def pluralTable (record : String) : String :=
  let reversed := (snakeCase (withoutRawMark record.toList)).reverse
  let last := (reversed.takeWhile (· != '_')).reverse
  let lead := (reversed.dropWhile (· != '_')).reverse
  String.ofList lead ++ pluralize (String.ofList last)

/-- The column name of a field: snake case. -/
def snakeColumn (field : String) : String :=
  String.ofList (snakeCase (withoutRawMark field.toList))

/-- Columns in snake case, tables in snake case and the plural. -/
def snakeCasePlural : NamingStrategy where
  table := pluralTable
  column := snakeColumn
  shown := "SnakeCasePlural"

/-- Tables named by an opening and the record in lower case, columns named as their fields. -/
def opened (opening : String) : NamingStrategy where
  table record := opening ++ lowered record
  column field := field
  shown := "Prefixed(" ++ quoted opening ++ ")"

end NamingStrategy

end RecordMapper
