/-
This file holds queries: what is collected about the rows of one record type before an operation
is run on them. Filters add up in the order in which they are given. A keyed condition that makes
no filter is remembered, and so is a record type that does not resolve; the operation that uses
the query then fails with the first of these, the record type going before the conditions. The
numbers of rows to take and to leave out are kept within what every product accepts.
-/

import RecordMapper.Filter.Basic
import RecordMapper.Program.Operation
import RecordMapper.Schema.Cache

namespace RecordMapper

/-- The greatest number of rows that every product accepts. -/
def mostRows : Nat := Nat.pow 2 63 - 1

/-- A query on the rows of a record type. -/
structure Query where
  dialect : Dialect
  type : RecordType
  /-- The model of the record type, or why it has none. -/
  model : Except Error Model
  /-- The fault of the first keyed condition that makes no filter. -/
  malformed : Option FilterFault := none
  filters : List Filter := []
  order : List String := []
  limit : Option Nat := none
  offset : Option Nat := none

namespace Query

/-- The query on a record type, its model being taken from the ones kept. -/
def start (dialect : Dialect) (cache : SchemaCache) (type : RecordType) :
    List LogEntry × Query × SchemaCache :=
  let (reports, model, kept) := cache.model type
  (reports, { dialect := dialect, type := type, model := model }, kept)

/-! ### Collecting -/

/-- The query under one more filter. -/
def filter (query : Query) (filter : Filter) : Query :=
  { query with filters := query.filters ++ [filter] }

/-- The query under one more keyed condition. -/
def whereKey (query : Query) (entry : String × Operand) : Query :=
  match Filter.ofKey entry.1 entry.2 with
  | .ok filter => query.filter filter
  | .error fault => { query with malformed := query.malformed.orElse fun _ => some fault }

/-- The query under several keyed conditions. -/
def whereKeys (query : Query) (entries : List (String × Operand)) : Query :=
  entries.foldl whereKey query

/-- One filter for every field of an example that does not hold its default. -/
def exampleFilters (model : Model) (record : Record) : List Filter :=
  model.fields.filterMap fun field =>
    match record[field.position]? with
    | none => none
    | some value => if value.isDefault then none else some (.compare .equal field.column value)

/-- The query under the filters that an example makes. -/
def whereRecord (query : Query) (record : Record) : Query :=
  match query.model with
  | .ok model => { query with filters := query.filters ++ exampleFilters model record }
  | .error _ => query

/-- The query with one more term of its order. -/
def orderBy (query : Query) (term : String) : Query :=
  { query with order := query.order ++ [term] }

/-- The query for so many rows at most. -/
def take (query : Query) (count : UInt64) : Query :=
  { query with limit := some (min count.toNat mostRows) }

/-- The query that leaves out so many rows. -/
def skip (query : Query) (count : UInt64) : Query :=
  { query with offset := some (min count.toNat mostRows) }

/-! ### Using -/

/-- The model to work with, or the first error made in collecting. -/
def prepare (query : Query) : Except Error Model :=
  match query.model, query.malformed with
  | .error error, _ => .error error
  | .ok _, some fault => .error (.unsupportedFilter fault)
  | .ok model, none => .ok model

end Query

end RecordMapper
