/-
This file separates what an operation does from what the world answers. A program is a tree of
requests: statements to send, hooks to call, transactions to control and reports to write, each
with a continuation for every possible answer. Nothing is assumed about the answers. An
environment gives them, from a state of its own; running a program under one is the only way in
which requests have effects, so a fact about all environments is a fact about all databases and
all hooks.
-/

import RecordMapper.Log
import RecordMapper.Record.Basic
import RecordMapper.Statement.Basic

namespace RecordMapper

/-! ### Requests and answers -/

/-- What the database reports about a statement that writes. -/
structure Outcome where
  rowsAffected : UInt64
  /-- The key generated by an insertion, if the database reports it. -/
  lastInsertId : Option Int64
  deriving DecidableEq

/-- New values by column or field, in the order of their names, each name once. -/
structure Changes where
  entries : List (String × Value) := []
  deriving DecidableEq

namespace Changes

/-- A new value put into entries in the order of their names, replacing one of the same name. -/
def insertInto (name : String) (value : Value) : List (String × Value) → List (String × Value)
  | [] => [(name, value)]
  | (other, kept) :: rest =>
    if name = other then (name, value) :: rest
    else if name < other then (name, value) :: (other, kept) :: rest
    else (other, kept) :: insertInto name value rest

/-- The changes with a new value for a name. -/
def insert (changes : Changes) (name : String) (value : Value) : Changes :=
  ⟨insertInto name value changes.entries⟩

/-- The changes without one for a name. -/
def erase (changes : Changes) (name : String) : Changes :=
  ⟨changes.entries.filter fun entry => entry.1 != name⟩

/-- The changes that a list of them amounts to, later ones replacing earlier ones. -/
def ofList (entries : List (String × Value)) : Changes :=
  entries.foldl (fun changes entry => changes.insert entry.1 entry.2) {}

end Changes

/-- A hook about to be called on a record. -/
structure HookCall where
  hook : Hook
  type : RecordType
  record : Record
  /-- The pending changes, for the hooks around an update. -/
  changes : Option Changes

/-- What a hook leaves behind. -/
structure HookReturn where
  record : Record
  changes : Option Changes
  outcome : Except Error Unit

/-- A step in the life of a transaction. -/
inductive Control
  | begin
  | commit
  | rollback
  /-- The transaction is given up without a word, and the connection undoes it. -/
  | abandon
  deriving DecidableEq

/-- The statement by which a step is taken. Giving a transaction up ends it as undoing it does. -/
def Control.sql : Control → String
  | .begin => "BEGIN"
  | .commit => "COMMIT"
  | .rollback | .abandon => "ROLLBACK"

/-! ### Programs -/

/-- A tree of requests that ends in results. -/
inductive Program (Result : Type) : Type
  | done (result : Result)
  | execute (statement : Statement) (next : Except Error Outcome → Program Result)
  | fetchFirst (statement : Statement) (next : Except Error (Option Row) → Program Result)
  | fetchAll (statement : Statement) (next : Except Error (List Row) → Program Result)
  | call (hook : HookCall) (next : HookReturn → Program Result)
  | control (step : Control) (next : Except Error Unit → Program Result)
  | report (entry : LogEntry) (next : Program Result)

namespace Program

/-- One program after another, which is given the result. -/
def bind {First Second : Type} (program : Program First) (next : First → Program Second) :
    Program Second :=
  match program with
  | .done result => next result
  | .execute statement after => .execute statement fun answer => (after answer).bind next
  | .fetchFirst statement after => .fetchFirst statement fun answer => (after answer).bind next
  | .fetchAll statement after => .fetchAll statement fun answer => (after answer).bind next
  | .call hook after => .call hook fun answer => (after answer).bind next
  | .control step after => .control step fun answer => (after answer).bind next
  | .report entry after => .report entry (after.bind next)

end Program

/-! ### Environments -/

/-- What answers a program's requests, each time from the state it is in. -/
structure Environment (State : Type) where
  execute : Statement → State → Except Error Outcome × State
  fetchFirst : Statement → State → Except Error (Option Row) × State
  fetchAll : Statement → State → Except Error (List Row) × State
  call : HookCall → State → HookReturn × State
  control : Control → State → Except Error Unit × State
  report : LogEntry → State → State

/-- The result of a program under an environment, and the state in which it ends. -/
def Program.run {State Result : Type} (environment : Environment State) :
    Program Result → State → Result × State
  | .done result, state => (result, state)
  | .execute statement next, state =>
    let (answer, after) := environment.execute statement state
    (next answer).run environment after
  | .fetchFirst statement next, state =>
    let (answer, after) := environment.fetchFirst statement state
    (next answer).run environment after
  | .fetchAll statement next, state =>
    let (answer, after) := environment.fetchAll statement state
    (next answer).run environment after
  | .call hook next, state =>
    let (answer, after) := environment.call hook state
    (next answer).run environment after
  | .control step next, state =>
    let (answer, after) := environment.control step state
    (next answer).run environment after
  | .report entry next, state => next.run environment (environment.report entry state)

end RecordMapper
