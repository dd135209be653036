/-
This file holds databases as the library sees them: a dialect, the models resolved so far and the
time that a statement may take. The settings of a connection choose all three; the dialect follows
from the URL. Databases, transactions and settings can be shown in one line, their parts named.
-/

import RecordMapper.Dialect.Registry
import RecordMapper.Schema.Cache

namespace RecordMapper

open RecordMapper.Calendar RecordMapper.Text

/-! ### Databases and settings -/

/-- A database that statements can be sent to. -/
structure Database where
  dialect : Dialect
  cache : SchemaCache
  /-- The time after which a statement is given up, if there is a limit. -/
  deadline : Option Duration

/-- The settings by which a connection is made. -/
structure Settings where
  maxConnections : Nat := 5
  naming : NamingStrategy := .snakeCasePlural
  registry : DialectRegistry := .standard
  deadline : Option Duration := none

/-- The database that a URL leads to. -/
def Settings.connect (settings : Settings) (url : String) : Except Error Database :=
  match settings.registry.resolveUrl url with
  | .error fault => .error (.configuration fault)
  | .ok dialect => .ok ⟨dialect, { naming := settings.naming }, settings.deadline⟩

/-! ### Shown texts -/

/-- A named thing with its parts in braces. -/
def shownParts (name : String) (parts : List (String × String)) : String :=
  let shown := parts.map fun (part, text) => part ++ ": " ++ text
  name ++ " \x7b " ++ ", ".intercalate shown ++ " \x7d"

/-- A list of texts in brackets, each quoted. -/
def shownNames (names : List String) : String :=
  "[" ++ ", ".intercalate (names.map quoted) ++ "]"

/-- A limit of time, or that there is none. -/
def shownDeadline : Option Duration → String
  | none => "None"
  | some limit => "Some(" ++ limit.text ++ ")"

/-- The shown text of what is kept of record types. -/
def SchemaCache.shown (cache : SchemaCache) : String :=
  shownParts "SchemaParser" [("naming", cache.naming.shown), ("cached", naturalText cache.size)]

/-- The shown text of a registry. -/
def DialectRegistry.shown (registry : DialectRegistry) : String :=
  shownParts "DialectRegistry" [("names", shownNames registry.names)]

/-- The shown text of a database. -/
def Database.shown (database : Database) : String :=
  shownParts "Database"
    [("dialect", quoted database.dialect.name), ("schema", database.cache.shown),
      ("statement_timeout", shownDeadline database.deadline)]

/-- The shown text of a transaction on a database. -/
def Database.shownTransaction (database : Database) : String :=
  shownParts "Transaction" [("dialect", quoted database.dialect.name)]

/-- The shown text of settings. -/
def Settings.shown (settings : Settings) : String :=
  shownParts "DatabaseBuilder"
    [("max_connections", naturalText settings.maxConnections), ("naming", settings.naming.shown),
      ("registry", settings.registry.shown), ("statement_timeout", shownDeadline settings.deadline)]

end RecordMapper
