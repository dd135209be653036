/-
This file says what a call of a history can come to. The table is made sure of and the identifiers
in it are listed; then the call has nothing to do, or it sends its statements within a transaction
that ends in a commit or is given up. A call can end early in all of this, and each course that it
can take has a form of its own.
-/

import RecordMapper.Proofs.Migration.Server
import RecordMapper.Proofs.Program.Operation

namespace RecordMapper.Migration

open Operation

/-! ### Calls -/

/-- A call that applies a migration or takes it back. -/
inductive Call
  | apply (identifier : String) (script : Script)
  | revert (identifier : String) (script : Script)

namespace Call

/-- What a call does. -/
def operation (history : History) : Call → Operation Unit Bool
  | .apply identifier script => history.apply identifier script
  | .revert identifier script => history.revert identifier script

/-- The migration that a call is about. -/
def identifier : Call → String
  | .apply identifier _ | .revert identifier _ => identifier

/-- The statements of the script that a call sends. -/
def script : Call → List String
  | .apply _ script => script.up
  | .revert _ script => script.down

/-- The statement by which a call changes the history. -/
def mark (history : History) : Call → Statement
  | .apply identifier _ => history.noteStatement identifier
  | .revert identifier _ => history.strikeStatement identifier

/-- The statements that a call sends in its transaction, in order. -/
def statements (history : History) (call : Call) : List Statement :=
  call.script.map Statement.ofText ++ [call.mark history]

/-- The identifiers that are noted after a call that has done something. -/
def marked (noted : List String) : Call → List String
  | .apply identifier _ => identifier :: noted
  | .revert identifier _ => noted.filter (· != identifier)

end Call

/-! ### Courses -/

/-- What is said in making sure of the table and in listing the identifiers in it. -/
def History.opening (history : History) (created : Outcome) (rows : List Row) : List Exchange :=
  [.executed history.tableStatement (.ok created), .fetchedAll history.listStatement (.ok rows)]

namespace History

variable {history : History} {Held : Type} {held left : Held} {exchanges : List Exchange}

end History

namespace Call

variable {history : History} {call : Call} {exchanges : List Exchange}

end Call

end RecordMapper.Migration
