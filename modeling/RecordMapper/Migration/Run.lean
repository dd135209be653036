/-
This file creates the tables of record types. Each type is resolved when its turn comes, its
statements are sent one after another, and the first failure ends the run: what was sent before
stays, and nothing after it is sent.
-/

import RecordMapper.Migration.Table
import RecordMapper.Program.Operation
import RecordMapper.Schema.Cache

namespace RecordMapper.Migration

/-- Sends statements for a record, one after another. -/
def sendAll {Held : Type} (record : String) : List String → Operation Held Unit
  | [] => Operation.pure ()
  | sql :: rest => do
    let _ ← (Operation.execute (Statement.ofText sql)).during "migrate" record
    sendAll record rest

/-- The model of a record type, from those that the operation keeps. -/
def resolve (type : RecordType) : Operation SchemaCache Model := do
  let (reports, outcome, kept) := (← Operation.held).model type
  Operation.hold kept
  Operation.reportAll reports
  Operation.ofExcept outcome

/-- Creates the table of a record type. -/
def createTable (dialect : Dialect) (type : RecordType) : Operation SchemaCache Unit := do
  let model ← resolve type
  let statements ← Operation.ofExcept (tableStatements model dialect)
  sendAll model.name statements

/-- Creates the tables of record types in order. -/
def createTables (dialect : Dialect) : List RecordType → Operation SchemaCache Unit
  | [] => Operation.pure ()
  | type :: rest => do
    createTable dialect type
    createTables dialect rest

end RecordMapper.Migration
