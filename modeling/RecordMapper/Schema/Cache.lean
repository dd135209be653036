/-
This file keeps the models of record types. A model is resolved when its type is first asked for
and stays as it is from then on; a type that does not resolve is tried again each time, with the
same reports.
-/

import RecordMapper.Record.Basic
import RecordMapper.Schema.Parser

namespace RecordMapper

/-- The naming strategy and the models resolved so far, by the identity of their types. -/
structure SchemaCache where
  naming : NamingStrategy
  models : List (Nat × Model) := []

namespace SchemaCache

/-- How many models are kept. -/
def size (cache : SchemaCache) : Nat :=
  cache.models.length

/-- The model of a record type, the reports made in resolving it, and what is kept afterwards. -/
def model (cache : SchemaCache) (type : RecordType) :
    List LogEntry × Except Error Model × SchemaCache :=
  match cache.models.lookup type.identity with
  | some known => ([], .ok known, cache)
  | none =>
    match Schema.resolve cache.naming type.descriptor with
    | (reports, .ok found) =>
      (reports, .ok found, { cache with models := cache.models ++ [(type.identity, found)] })
    | (reports, .error error) => (reports, .error error, cache)

end SchemaCache

end RecordMapper
