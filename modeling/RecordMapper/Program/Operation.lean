/-
This file gives programs the two things that operations need besides requests: they can fail, and
they work on a value that the caller has handed over, such as the record being saved. What was
done to that value before a failure stays done, so an operation always answers both its result,
which may be an error, and the value as it was left.
-/

import RecordMapper.Program.Basic

namespace RecordMapper

/-- A program that works on a value of the caller and may fail. -/
def Operation (Held Result : Type) : Type :=
  Held → Program (Except Error Result × Held)

namespace Operation

/-- The operation that does nothing and has a result. -/
def pure {Held Result : Type} (result : Result) : Operation Held Result :=
  fun held => .done (.ok result, held)

/-- One operation after another, unless the first fails. -/
def bind {Held First Second : Type} (operation : Operation Held First)
    (next : First → Operation Held Second) : Operation Held Second :=
  fun held =>
    (operation held).bind fun (outcome, after) =>
      match outcome with
      | .ok result => next result after
      | .error error => .done (.error error, after)

instance {Held : Type} : Monad (Operation Held) where
  pure := Operation.pure
  bind := Operation.bind

variable {Held Result : Type}

/-- The operation that fails. -/
def fail (error : Error) : Operation Held Result :=
  fun held => .done (.error error, held)

/-- The operation that has a result or fails without doing anything. -/
def ofExcept (outcome : Except Error Result) : Operation Held Result :=
  fun held => .done (outcome, held)

/-- The value that the operation works on. -/
def held : Operation Held Held :=
  fun held => .done (.ok held, held)

/-- Replaces the value that the operation works on. -/
def hold (value : Held) : Operation Held Unit :=
  fun _ => .done (.ok (), value)

/-- The outcome of an operation as a result, so that a failure can be looked at. -/
def attempt (operation : Operation Held Result) : Operation Held (Except Error Result) :=
  fun held => (operation held).bind fun (outcome, after) => .done (.ok outcome, after)

/-- An operation on a value of its own in place of the caller's; the value is part of the result. -/
def within {Inner : Type} (value : Inner) (operation : Operation Inner Result) :
    Operation Held (Except Error Result × Inner) :=
  fun held => (operation value).bind fun result => .done (.ok result, held)

/-! ### Requests -/

/-- Sends a statement that writes. -/
def execute (statement : Statement) : Operation Held Outcome :=
  fun held => .execute statement fun answer => .done (answer, held)

/-- Sends a statement and takes the first row. -/
def fetchFirst (statement : Statement) : Operation Held (Option Row) :=
  fun held => .fetchFirst statement fun answer => .done (answer, held)

/-- Sends a statement and takes all rows. -/
def fetchAll (statement : Statement) : Operation Held (List Row) :=
  fun held => .fetchAll statement fun answer => .done (answer, held)

/-- Calls a hook. -/
def call (hook : HookCall) : Operation Held HookReturn :=
  fun held => .call hook fun answer => .done (.ok answer, held)

/-- Takes a step in the life of a transaction. -/
def control (step : Control) : Operation Held Unit :=
  fun held => .control step fun answer => .done (answer, held)

/-- Writes a report to the log. -/
def report (level : LogLevel) (message : String) : Operation Held Unit :=
  fun held => .report ⟨level, message⟩ (.done (.ok (), held))

/-- Writes reports to the log, in order. -/
def reportAll : List LogEntry → Operation Held Unit
  | [] => Operation.pure ()
  | entry :: rest => (report entry.level entry.message).bind fun _ => reportAll rest

/-- The operation with its name and the record's added to failures of the database. -/
def during (name record : String) (operation : Operation Held Result) : Operation Held Result :=
  fun held =>
    (operation held).bind fun (outcome, after) =>
      .done (outcome.mapError (Error.during name record), after)

end Operation

end RecordMapper
