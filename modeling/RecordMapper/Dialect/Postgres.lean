/-
This file is the dialect of PostgreSQL: numbered markers with casts for what travels as text,
serial types for generated keys, and insertions that return the key.
-/

import RecordMapper.Dialect.Basic

namespace RecordMapper.Dialect.Postgres

/-- The type of a column by its kind. -/
def baseType (field : Field) : Except TypeFault String :=
  match field.kind with
  | .bool => .ok "BOOLEAN"
  | .smallInt => .ok "SMALLINT"
  | .int => .ok "INTEGER"
  | .bigInt => .ok "BIGINT"
  | .real => .ok (decimalOr "NUMERIC" field "REAL")
  | .double => .ok (decimalOr "NUMERIC" field "DOUBLE PRECISION")
  | .text => .ok (sizedText field "TEXT")
  | .blob => .ok "BYTEA"
  | .uuid => .ok "UUID"
  | .date => .ok "DATE"
  | .time => .ok "TIME"
  | .dateTime => .ok "TIMESTAMP"
  | .timestamp => .ok "TIMESTAMPTZ"
  | .other name => .error (.unmapped "PostgreSQL" name)

/-- The cast that turns bound text into a value of its kind. -/
def bindCast : Kind → String
  | .uuid => "::UUID"
  | .date => "::DATE"
  | .time => "::TIME"
  | .dateTime => "::TIMESTAMP"
  | .timestamp => "::TIMESTAMPTZ"
  | _ => ""

/-- The type of a generated key. -/
def serialType (field : Field) : Option String :=
  match field.kind with
  | .smallInt => some "SMALLSERIAL"
  | .int => some "SERIAL"
  | .bigInt => some "BIGSERIAL"
  | _ => none

/-- The cast under which a column can be read back. -/
def selectExpression (field : Field) (column : String) : String :=
  if field.kind.isTextual then column ++ "::TEXT"
  else if field.kind.isFloat && field.precision.isSome then column ++ "::DOUBLE PRECISION"
  else if field.kind = .text && field.sqlType.isSome then column ++ "::TEXT"
  else column

/-- The statement that creates a history table. -/
def historyTable (table : String) (quote : String → String) : String :=
  "CREATE TABLE IF NOT EXISTS " ++ table ++ " (" ++ quote "id" ++ " VARCHAR(255) PRIMARY KEY, " ++
    quote "applied_at" ++ " TIMESTAMPTZ NOT NULL DEFAULT CURRENT_TIMESTAMP)"

end RecordMapper.Dialect.Postgres

namespace RecordMapper

/-- The dialect of PostgreSQL. -/
def Dialect.postgres : Dialect where
  name := "postgres"
  placeholder position := "$" ++ Text.naturalText position
  bindCast := Dialect.Postgres.bindCast
  baseType := Dialect.Postgres.baseType
  serialType := Dialect.Postgres.serialType
  selectExpression := Dialect.Postgres.selectExpression
  asksForKey := true
  unboundedLimit := "ALL"
  historyTable := Dialect.Postgres.historyTable

end RecordMapper
