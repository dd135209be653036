/-
This file keeps the history of migrations in a table of the database. A migration is applied by
sending its statements and noting its identifier within one transaction, so that either both
happen or neither; taking it back works the same way. What is already noted is not applied again,
and what is not noted is not taken back.
-/

import RecordMapper.Migration.Script
import RecordMapper.Program.Operation
import RecordMapper.Value.Conversion
import RecordMapper.Wire.Decoding

namespace RecordMapper.Migration

/-- The table of the history where none is stated. -/
def usualTable : String := "keel_migrations"

/-- A history of migrations. -/
structure History where
  dialect : Dialect
  table : String := usualTable

namespace History

variable {Held : Type}

/-! ### Statements -/

/-- The statement that notes an identifier. -/
def noteStatement (history : History) (identifier : String) : Statement :=
  { sql := history.dialect.addHistory history.table, arguments := [(.text identifier, .text)] }

/-- The statement that strikes out an identifier. -/
def strikeStatement (history : History) (identifier : String) : Statement :=
  { sql := history.dialect.removeHistory history.table, arguments := [(.text identifier, .text)] }

/-! ### The table -/

/-- Creates the table unless it is there. -/
def ensure (history : History) : Operation Held Unit := do
  let _ ← Operation.execute (Statement.ofText (history.dialect.createHistory history.table))

/-- The identifier in the only cell of a row. -/
def identifierOfRow (row : Row) : Except Error String :=
  match Wire.decode row 0 .text with
  | .error fault => .error (.database fault)
  | .ok value => (Conversion.textOf value).mapError .conversion

/-- The identifiers that are noted, in their order in the table. -/
def applied (history : History) : Operation Held (List String) := do
  history.ensure
  let rows ← Operation.fetchAll (Statement.ofText (history.dialect.listHistory history.table))
  Operation.ofExcept (rows.mapM identifierOfRow)

/-- Notes an identifier. -/
def note (history : History) (identifier : String) : Operation Held Unit := do
  history.ensure
  let _ ← Operation.execute (history.noteStatement identifier)

/-- Strikes out an identifier. -/
def strike (history : History) (identifier : String) : Operation Held Unit := do
  history.ensure
  let _ ← Operation.execute (history.strikeStatement identifier)

/-! ### Applying and taking back -/

/-- Sends statements, one after another. -/
def sendEach : List Statement → Operation Held Unit
  | [] => Operation.pure ()
  | statement :: rest => do
    let _ ← Operation.execute statement
    sendEach rest

/-- Sends statements within one transaction, which is given up at the first failure. -/
def sendTogether (statements : List Statement) : Operation Held Unit := do
  Operation.control .begin
  match ← (sendEach statements).attempt with
  | .ok _ => Operation.control .commit
  | .error error =>
    Operation.control .abandon
    Operation.fail error

/-- Applies a migration unless it is noted, and answers whether it did. -/
def apply (history : History) (identifier : String) (script : Script) : Operation Held Bool := do
  let noted ← history.applied
  if noted.contains identifier then
    Operation.report .debug ("migration " ++ identifier ++ " already applied")
    return false
  else
    sendTogether (script.up.map Statement.ofText ++ [history.noteStatement identifier])
    Operation.report .info ("applied migration " ++ identifier)
    return true

/-- Takes a migration back if it is noted, and answers whether it did. -/
def revert (history : History) (identifier : String) (script : Script) : Operation Held Bool := do
  let noted ← history.applied
  if noted.contains identifier then
    sendTogether (script.down.map Statement.ofText ++ [history.strikeStatement identifier])
    Operation.report .info ("reverted migration " ++ identifier)
    return true
  else
    Operation.report .debug ("migration " ++ identifier ++ " is not applied")
    return false

end History

end RecordMapper.Migration
