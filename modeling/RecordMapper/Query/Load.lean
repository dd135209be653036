/-
This file reads rows. Looking up one row fails where there is none; a search answers every row
that matches, in the order in which the database delivers them, and a count only their number.
Each record read is handed to its hook before it counts as loaded. A search that breaks off leaves
the records loaded so far with the caller.
-/

import RecordMapper.Query.Hooks
import RecordMapper.Query.Statements
import RecordMapper.Record.Loading

namespace RecordMapper.Query

variable {Held : Type}

/-- Makes a record of a row and calls the hook for loaded records on it. -/
def load (query : Query) (model : Model) (row : Row) : Operation Held Record := do
  let record ← Operation.ofExcept (query.type.ofRow model row)
  Hook.afterFind.afterOn model query.type none record

/-- Sends a statement for one row and loads it, the lookup failing if there is none. -/
def loadOne (query : Query) (model : Model) (name : String) (statement : Statement) :
    Operation Held Record := do
  match ← (Operation.fetchFirst statement).during name model.name with
  | some row => query.load model row
  | none => Operation.fail (.notFound model.name)

/-- The record with a single key. -/
def findById (query : Query) (key : Value) : Operation Held Record := do
  let model ← Operation.ofExcept query.prepare
  match model.soleKey? with
  | none => Operation.fail (.missingPrimaryKey model.name "find_by_id")
  | some field =>
    let filters := query.filters ++ [.compare .equal field.column key]
    let statement ← Operation.ofExcept
      (selectStatement model query.dialect filters query.order (some 1) none)
    query.loadOne model "find_by_id" statement

/-- The terms by which the first record is found where the query states none: the keys. -/
def firstOrder (query : Query) (model : Model) : List String :=
  if query.order.isEmpty then
    model.primaryKeys.map fun key => query.dialect.quote key.column ++ " ASC"
  else query.order

/-- The first record that matches. -/
def first (query : Query) : Operation Held Record := do
  let model ← Operation.ofExcept query.prepare
  let order := query.firstOrder model
  let statement ← Operation.ofExcept
    (selectStatement model query.dialect query.filters order (some 1) query.offset)
  query.loadOne model "first" statement

/-- Loads rows in turn, adding each record to those that the caller holds. -/
def loadEach (query : Query) (model : Model) : List Row → Operation (List Record) Unit
  | [] => Operation.pure ()
  | row :: rest => do
    let record ← query.load model row
    Operation.hold ((← Operation.held) ++ [record])
    loadEach query model rest

/-- Puts every record that matches in place of those that the caller holds. -/
def find (query : Query) : Operation (List Record) Unit := do
  Operation.hold []
  let model ← Operation.ofExcept query.prepare
  let statement ← Operation.ofExcept
    (selectStatement model query.dialect query.filters query.order query.limit query.offset)
  let rows ← (Operation.fetchAll statement).during "find" model.name
  query.loadEach model rows

/-- Every record that matches. -/
def scan (query : Query) : Operation Held (List Record) := do
  let (outcome, records) ← Operation.within [] query.find
  Operation.ofExcept (outcome.map fun _ => records)

/-- The number in the only cell of a count's row. -/
def countOfRow (row : Row) : Except Error Int64 :=
  match Wire.decode row 0 .bigInt with
  | .error fault => .error (.database fault)
  | .ok value =>
    match value.asInteger with
    | some number => .ok number
    | none => .error (.conversion .uncounted)

/-- The number of rows that match; order and numbers of rows do not matter to it. -/
def count (query : Query) : Operation Held Int64 := do
  let model ← Operation.ofExcept query.prepare
  let statement ← Operation.ofExcept (countStatement model query.dialect query.filters)
  match ← (Operation.fetchFirst statement).during "count" model.name with
  | some row => Operation.ofExcept (countOfRow row)
  | none => return 0

end RecordMapper.Query
