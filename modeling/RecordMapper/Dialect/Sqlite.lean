/-
This file is the dialect of SQLite: four storage types, dates and times as text, insertions that
return the key, and generated keys only where a single integer key is declared in its column.
-/

import RecordMapper.Dialect.Basic

namespace RecordMapper.Dialect.Sqlite

/-- The type of a column by its kind. -/
def baseType (field : Field) : Except TypeFault String :=
  match field.kind with
  | .bool | .smallInt | .int | .bigInt => .ok "INTEGER"
  | .real | .double => .ok "REAL"
  | .text => .ok (sizedText field "TEXT")
  | .blob => .ok "BLOB"
  | .uuid | .date | .time | .dateTime | .timestamp => .ok "TEXT"
  | .other name => .error (.unmapped "SQLite" name)

/-- The clause of an only key. A generated key that is not the only key is refused. -/
def keyClause (field : Field) : Except TypeFault String :=
  match field.isInlineKey, field.isAutoIncrement with
  | true, true => .ok " PRIMARY KEY AUTOINCREMENT"
  | true, false => .ok " PRIMARY KEY"
  | false, true => .error .strayGeneratedKey
  | false, false => .ok ""

/-- The statement that creates a history table. -/
def historyTable (table : String) (quote : String → String) : String :=
  "CREATE TABLE IF NOT EXISTS " ++ table ++ " (" ++ quote "id" ++ " TEXT PRIMARY KEY, " ++
    quote "applied_at" ++ " TEXT NOT NULL DEFAULT CURRENT_TIMESTAMP)"

end RecordMapper.Dialect.Sqlite

namespace RecordMapper

/-- The dialect of SQLite. -/
def Dialect.sqlite : Dialect where
  name := "sqlite"
  baseType := Dialect.Sqlite.baseType
  serialType _ := some "INTEGER"
  keyClause := Dialect.Sqlite.keyClause
  asksForKey := true
  unboundedLimit := "-1"
  historyTable := Dialect.Sqlite.historyTable

end RecordMapper
