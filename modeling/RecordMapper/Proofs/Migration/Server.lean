/-
This file describes a server that runs transactions atomically. While a transaction is open all
statements work on a copy of what the server keeps, definitions of tables included; a commit puts
the copy in place, and a transaction that is given up leaves nothing behind. Any statement may fail
at any moment, a commit alone may not. Of the statements on a history it is assumed that they do
what they say where they succeed; what other statements do is left open.
-/

import Mathlib.Data.List.Forall2
import RecordMapper.Migration.History
import RecordMapper.Proofs.Program.Replay

namespace RecordMapper.Migration

/-! ### Servers -/

/-- What a server keeps: whether the table of a history is there, the identifiers that are noted in
it, the latest first, and everything else. -/
structure Store (Data : Type) where
  hasTable : Bool
  noted : List String
  data : Data

/-- What a server answers to a statement, which may be different at different moments. -/
structure Server (Data : Type) where
  /-- The answer to a statement that writes, and what the server keeps after it. -/
  perform : Nat → Statement → Store Data → Except Error Outcome × Store Data
  /-- The rows for a statement that reads. -/
  list : Nat → Statement → Store Data → Except Error (List Row)
  /-- The answer to the begin of a transaction. -/
  opens : Nat → Except Error Unit

/-- A session with a server: how much has been asked of it, what it keeps, and the copy on which an
open transaction works. -/
structure Session (Data : Type) where
  moment : Nat := 0
  committed : Store Data
  working : Option (Store Data) := none

namespace Session

variable {Data : Type}

/-- What statements see. -/
def view (session : Session Data) : Store Data :=
  session.working.getD session.committed

/-- The session after a statement has left a store behind, in the copy if there is one. -/
def keep (session : Session Data) (store : Store Data) : Session Data :=
  match session.working with
  | none => { session with moment := session.moment + 1, committed := store }
  | some _ => { session with moment := session.moment + 1, working := some store }

/-- The session after a request that changes nothing. -/
def next (session : Session Data) : Session Data :=
  { session with moment := session.moment + 1 }

end Session

/-- A server as an environment. Every statement outside a transaction is committed at once. -/
def Server.environment {Data : Type} (server : Server Data) : Environment (Session Data) where
  execute statement session :=
    let (answer, store) := server.perform session.moment statement session.view
    (answer, session.keep store)
  fetchFirst statement session :=
    ((server.list session.moment statement session.view).map List.head?, session.next)
  fetchAll statement session := (server.list session.moment statement session.view, session.next)
  call call session := (⟨call.record, call.changes, .ok ()⟩, session)
  control step session :=
    match step with
    | .begin =>
      match server.opens session.moment with
      | .ok _ => (.ok (), { session.next with working := some session.view })
      | .error error => (.error error, session.next)
    | .commit => (.ok (), { session.next with committed := session.view, working := none })
    | .rollback | .abandon => (.ok (), { session.next with working := none })
  report _ session := session

/-! ### Statements on a history -/

namespace History

/-- The statement that creates the table of a history unless it is there. -/
def tableStatement (history : History) : Statement :=
  .ofText (history.dialect.createHistory history.table)

/-- The statement that lists the identifiers of a history. -/
def listStatement (history : History) : Statement :=
  .ofText (history.dialect.listHistory history.table)

end History

variable {Data : Type}

/-- A server does for a history what the statements on its table say. Where one fails nothing is
assumed of it, but creating the table never touches anything else. -/
structure Server.Serves (server : Server Data) (history : History) : Prop where
  create : ∀ moment store,
    (server.perform moment history.tableStatement store).2 = store ∨
      (server.perform moment history.tableStatement store).2 = { store with hasTable := true }
  note : ∀ moment identifier store outcome,
    (server.perform moment (history.noteStatement identifier) store).1 = .ok outcome →
      (server.perform moment (history.noteStatement identifier) store).2 =
        { store with noted := identifier :: store.noted }
  strike : ∀ moment identifier store outcome,
    (server.perform moment (history.strikeStatement identifier) store).1 = .ok outcome →
      (server.perform moment (history.strikeStatement identifier) store).2 =
        { store with noted := store.noted.filter (· != identifier) }
  list : ∀ moment store rows, server.list moment history.listStatement store = .ok rows →
    ∃ identifiers : List String, identifiers.Perm store.noted ∧
      rows = identifiers.map fun identifier => [some (.text identifier)]

/-- The rows that a server lists are read back as the identifiers that are noted. -/
theorem Server.Serves.identifiers {server : Server Data} {history : History}
    (serves : server.Serves history) {moment : Nat} {store : Store Data} {rows : List Row}
    (listed : server.list moment history.listStatement store = .ok rows) :
    ∃ identifiers, rows.mapM History.identifierOfRow = .ok identifiers ∧
      ∀ each, each ∈ identifiers ↔ each ∈ store.noted := by
  obtain ⟨identifiers, reordered, rfl⟩ := serves.list moment store rows listed
  refine ⟨identifiers, ?_, fun each => reordered.mem_iff⟩
  clear listed reordered
  induction identifiers with
  | nil => rfl
  | cons identifier rest inductionHypothesis =>
    rw [List.map_cons, List.mapM_cons, inductionHypothesis]
    rfl

/-! ### What stays as it was -/

/-- No transaction is open after a session has gone on, and what is committed is what was before but
for the table of the history, which may have been created. -/
structure Session.Keeps (before after : Session Data) : Prop where
  idle : after.working = none
  noted : after.committed.noted = before.committed.noted
  data : after.committed.data = before.committed.data
  hasTable : before.committed.hasTable = true → after.committed.hasTable = true

namespace Session.Keeps

theorem refl {session : Session Data} (idle : session.working = none) : session.Keeps session :=
  ⟨idle, rfl, rfl, id⟩

theorem trans {before middle after : Session Data} (first : before.Keeps middle)
    (second : middle.Keeps after) : before.Keeps after :=
  ⟨second.idle, second.noted.trans first.noted, second.data.trans first.data,
    fun has => second.hasTable (first.hasTable has)⟩

end Session.Keeps

variable {server : Server Data} {history : History} {before after : Session Data}

variable {store : Store Data} {exchanges : List Exchange}

/-- An exchange shows that a statement was sent and succeeded. -/
def Sent (statement : Statement) (exchange : Exchange) : Prop :=
  ∃ outcome, exchange = .executed statement (.ok outcome)

end RecordMapper.Migration
