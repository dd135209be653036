/-
This file holds the registry in which dialects are looked up by name. Names are compared without
the blanks around them and without regard to the case of the letters A to Z, and each can be
taken once. A connection's URL names its dialect by what stands before the first colon. The names
are listed in the order of their code points.
-/

import RecordMapper.Dialect.MySql
import RecordMapper.Dialect.Postgres
import RecordMapper.Dialect.Sqlite

namespace RecordMapper

open RecordMapper.Text

/-- Dialects under the names they were registered by, in the order of registration. -/
structure DialectRegistry where
  entries : List (String × Dialect) := []

namespace DialectRegistry

/-- A registry without a dialect. -/
def empty : DialectRegistry := {}

/-- The registry of the dialects of all supported products. -/
def standard : DialectRegistry where
  entries :=
    [("postgres", .postgres), ("postgresql", .postgres), ("mysql", .mySql), ("mariadb", .mySql),
      ("sqlite", .sqlite)]

/-- The form in which names are compared. -/
def normalName (name : String) : String :=
  String.ofList (asciiLower (trim name.toList))

/-- The dialect that stands under a name in its compared form. -/
def find? (registry : DialectRegistry) (name : String) : Option Dialect :=
  registry.entries.lookup name

/-- The registry with one more dialect, unless the name is blank or taken. -/
def register (registry : DialectRegistry) (name : String) (dialect : Dialect) :
    Except SetupFault DialectRegistry :=
  let key := normalName name
  if key.isEmpty then .error .unnamedDialect
  else if (registry.find? key).isSome then .error (.takenDialect key)
  else .ok { entries := registry.entries ++ [(key, dialect)] }

/-- The dialect registered by a name. -/
def resolve (registry : DialectRegistry) (name : String) : Except SetupFault Dialect :=
  match registry.find? (normalName name) with
  | some dialect => .ok dialect
  | none => .error (.unknownDialect (normalName name))

/-- The dialect that a connection's URL names. -/
def resolveUrl (registry : DialectRegistry) (url : String) : Except SetupFault Dialect :=
  match cut ':' url.toList with
  | some (scheme, _) => registry.resolve (String.ofList scheme)
  | none => .error (.noScheme url)

/-- The registered names in the order of their code points. -/
def names (registry : DialectRegistry) : List String :=
  (registry.entries.map Prod.fst).mergeSort fun first second => first ≤ second

end DialectRegistry

end RecordMapper
