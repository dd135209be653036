/-
This file holds the world of a rehearsal: a database whose answers are written down beforehand.
Every statement that is sent takes the next answer and leaves a trace; one whose arguments cannot
be bound is never sent. Where the way to the database is part of the rehearsal, statements are
also logged, no generated key is reported, and transactions are watched: one that is given up, or
whose end fails, is rolled back.
-/

import RecordMapper.Connection.Basic
import RecordMapper.Program.Operation
import RecordMapper.Statement.Binding

namespace RecordMapper.Rehearsal

open RecordMapper.Calendar

/-! ### Answers written down -/

/-- An answer to a statement. -/
structure Response where
  rows : List Row := []
  affected : UInt64 := 1
  lastId : Option Int64 := none
  /-- The text with which the statement is refused. -/
  error : Option String := none
  /-- The time after which the statement counts as given up. -/
  timeout : Option Duration := none
  /-- The statement is not answered at all. -/
  hangs : Bool := false
  /-- The step of a transaction that the answer is meant for. -/
  control : Option Control := none

/-- What a refusal's text stands for. -/
def faultOfText (text : String) : DatabaseFault :=
  if text = "@RowNotFound" then .rowMissing
  else if text = "@PoolClosed" then .poolClosed
  else if text = "@PoolTimedOut" then .poolTimedOut
  else .refused text

/-! ### What hooks do -/

/-- One thing that a hook does when it is called. -/
inductive HookAction
  | set (field : String) (value : Value)
  | fail (text : String)
  | failConversion (text : String)
  | failNotFound (record : String)
  | failIfDefault (field text : String)
  | execute (sql : String)
  | count (type : Nat)
  | create (values : List Value)
  | scan
  | change (column : String) (value : Value)
  | unchange (column : String)

/-- A record type that takes part, with what its hooks do. -/
structure Actor where
  type : RecordType
  actions : List (Hook × List HookAction) := []

/-! ### The world -/

/-- Something that happened in a rehearsal. -/
inductive Event
  | sent (statement : Statement) (wire : List WireArgument)
  | controlled (step : Control)
  | called (call : HookCall)
  | counted (number : Int64)
  | scanned (records : List Record)

/-- The state of a rehearsal. -/
structure World where
  database : Database
  actors : List Actor
  /-- Whether the way to the database is part of the rehearsal. -/
  isConnected : Bool
  /-- Whether a transaction has been left open. -/
  inTransaction : Bool := false
  /-- The record types that have been resolved on request. -/
  parsed : List Nat := []
  responses : List Response := []
  trace : List Event := []
  logs : List LogEntry := []

namespace World

/-- The world after an event. -/
def note (world : World) (event : Event) : World :=
  { world with trace := world.trace ++ [event] }

/-- The world after an entry to the log. -/
def log (world : World) (entry : LogEntry) : World :=
  { world with logs := world.logs ++ [entry] }

/-- The world after an entry that only the way to the database makes. -/
def logConnected (world : World) (message : String) : World :=
  if world.isConnected then world.log ⟨.debug, message⟩ else world

/-- The next answer, or the usual one where none is left. -/
def takeResponse (world : World) : Response × World :=
  match world.responses with
  | [] => ({}, world)
  | response :: rest => (response, { world with responses := rest })

/-- The error that an answer amounts to, if it does. -/
def errorOf (world : World) (response : Response) : Option Error :=
  match response.error, response.timeout, response.hangs with
  | some text, _, _ => some (.database (faultOfText text))
  | none, some limit, _ => some (.timeout limit)
  | none, none, true => some (.timeout (world.database.deadline.getD ⟨0⟩))
  | none, none, false => none

/-- Sends a statement and takes its answer. -/
def send (world : World) (statement : Statement) : Except Error Response × World :=
  let logged := world.logConnected statement.sql
  match statement.wire world.database.dialect with
  | .error fault => (.error (.conversion fault), logged)
  | .ok wire =>
    let (response, answered) := (logged.note (.sent statement wire)).takeResponse
    match answered.errorOf response with
    | some error => (.error error, answered)
    | none => (.ok response, answered)

/-- The outcome that an answer reports of a statement that writes. -/
def outcomeOf (world : World) (response : Response) : Outcome :=
  ⟨response.affected, if world.isConnected then none else response.lastId⟩

/-! ### Transactions -/

/-- The refusal of a step, if the next answer is one that is meant for it. -/
def takeRefusal (world : World) (step : Control) : Option Error × World :=
  match world.responses with
  | [] => (none, world)
  | response :: rest =>
    if response.control = some step then
      let refusal := response.error.map fun text => Error.database (faultOfText text)
      (refusal, { world with responses := rest })
    else (none, world)

/-- Takes a step that the database can refuse; a transaction whose end is refused is rolled back. -/
def step (world : World) (step : Control) : Except Error Unit × World :=
  let (refusal, after) := (world.note (.controlled step)).takeRefusal step
  match refusal with
  | none => (.ok (), after)
  | some error =>
    (.error error, if step = .begin then after else after.note (.controlled .rollback))

/-- Takes a step in the life of a transaction. -/
def control (world : World) : Control → Except Error Unit × World
  | .begin => world.step .begin
  | .commit => (world.logConnected Control.commit.sql).step .commit
  | .rollback => (world.logConnected Control.rollback.sql).step .rollback
  | .abandon => (.ok (), world.note (.controlled .rollback))

end World

end RecordMapper.Rehearsal
