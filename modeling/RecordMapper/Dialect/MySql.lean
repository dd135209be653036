/-
This file is the dialect of MySQL and MariaDB: names between backticks, indexes declared within
the table, keys marked `AUTO_INCREMENT`, and no offsets in instants. A text that is a key or part
of an index gets a limited type, since an unlimited one cannot be indexed.
-/

import RecordMapper.Dialect.Basic

namespace RecordMapper.Dialect.MySql

/-- Whether a field takes part in a key or an index. -/
def isIndexed (field : Field) : Bool :=
  field.isPrimaryKey || field.isUnique || !field.indexes.isEmpty || !field.uniqueIndexes.isEmpty

/-- The type of a column by its kind. -/
def baseType (field : Field) : Except TypeFault String :=
  match field.kind with
  | .bool => .ok "BOOLEAN"
  | .smallInt => .ok "SMALLINT"
  | .int => .ok "INT"
  | .bigInt => .ok "BIGINT"
  | .real => .ok (decimalOr "DECIMAL" field "FLOAT")
  | .double => .ok (decimalOr "DECIMAL" field "DOUBLE")
  | .text => .ok (sizedText field (if isIndexed field then "VARCHAR(255)" else "TEXT"))
  | .blob => .ok "BLOB"
  | .uuid => .ok "CHAR(36)"
  | .date => .ok "DATE"
  | .time => .ok "TIME(6)"
  | .dateTime | .timestamp => .ok "DATETIME(6)"
  | .other name => .error (.unmapped "MySQL" name)

/-- The clauses of a generated key and of an only key. -/
def keyClause (field : Field) : Except TypeFault String :=
  .ok ((if field.isAutoIncrement then " AUTO_INCREMENT" else "") ++
    if field.isInlineKey then " PRIMARY KEY" else "")

/-- The spellings of the present moment that a default may use. -/
def clockNames : List String :=
  ["CURRENT_TIMESTAMP", "CURRENT_TIMESTAMP()", "NOW()", "LOCALTIMESTAMP"]

/-- Whether an expression is one of the spellings of the present moment. -/
def isClock (expression : String) : Bool :=
  clockNames.any fun name => Text.asciiLowered (Text.trimmed expression) == Text.asciiLowered name

/-- The default of a column. A column with fractions of a second accepts the present moment only
at the same precision. -/
def defaultExpression (field : Field) (expression : String) : String :=
  if field.sqlType.isNone && isClock expression then
    match field.kind with
    | .time => "CURRENT_TIME(6)"
    | .dateTime | .timestamp => "CURRENT_TIMESTAMP(6)"
    | _ => expression
  else expression

/-- The cast under which a column can be read back. -/
def selectExpression (field : Field) (column : String) : String :=
  match field.kind with
  | .date | .time | .dateTime | .timestamp => "CAST(" ++ column ++ " AS CHAR)"
  | .real | .double => if field.precision.isSome then "CAST(" ++ column ++ " AS DOUBLE)" else column
  | _ => column

/-- The statement that creates a history table. -/
def historyTable (table : String) (quote : String → String) : String :=
  "CREATE TABLE IF NOT EXISTS " ++ table ++ " (" ++ quote "id" ++ " VARCHAR(255) PRIMARY KEY, " ++
    quote "applied_at" ++ " DATETIME NOT NULL DEFAULT CURRENT_TIMESTAMP)"

end RecordMapper.Dialect.MySql

namespace RecordMapper

/-- The dialect of MySQL and MariaDB. -/
def Dialect.mySql : Dialect where
  name := "mysql"
  quoteCharacter := '\x60'
  baseType := Dialect.MySql.baseType
  keyClause := Dialect.MySql.keyClause
  defaultExpression := Dialect.MySql.defaultExpression
  selectExpression := Dialect.MySql.selectExpression
  hasInlineIndexes := true
  unboundedLimit := "18446744073709551615"
  temporalText := Value.plainText
  emptyRow := " () VALUES ()"
  historyTable := Dialect.MySql.historyTable

end RecordMapper
