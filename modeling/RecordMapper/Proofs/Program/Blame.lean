/-
This file proves that a fault of the caller is found before any statement is sent. The caller is to
blame for an error if the record definition is wrong or the call is. A database connection never
reports such an error; what it reports is its own failure or a deadline that has passed. So an
operation is put together from two sorts of parts: those that can blame the caller but are silent,
and those that send statements, or run after one, but fail by the connection or by values only.
-/

import RecordMapper.Proofs.Outcome
import RecordMapper.Proofs.Program.Operation

namespace RecordMapper

/-! ### Errors and their sources -/

/-- Whether the caller is to blame for an error: its record definition is wrong, or its call. -/
def Error.blamesCaller (error : Error) : Bool :=
  match error.family with
  | .schema | .usage => true
  | .notFound | .execution | .other => false

/-- Naming the operation of an error changes nothing about who is to blame. -/
theorem Error.blamesCaller_during (operation record : String) (error : Error) :
    (error.during operation record).blamesCaller = error.blamesCaller := by
  cases error <;> rfl

/-- An error that a connection reports: a failure of the database, or a deadline that has passed. -/
inductive Error.IsConnections : Error → Prop
  | database (fault : DatabaseFault) : IsConnections (.database fault)
  | timeout (limit : Calendar.Duration) : IsConnections (.timeout limit)

theorem Error.IsConnections.blamesCaller {error : Error} (reported : error.IsConnections) :
    error.blamesCaller = false := by
  cases reported <;> rfl

/-- Statements are answered by a connection, which fails in its own ways only. -/
structure Environment.IsConnection {State : Type} (environment : Environment State) : Prop where
  execute : ∀ statement state error,
    (environment.execute statement state).1 = .error error → error.IsConnections
  fetchFirst : ∀ statement state error,
    (environment.fetchFirst statement state).1 = .error error → error.IsConnections
  fetchAll : ∀ statement state error,
    (environment.fetchAll statement state).1 = .error error → error.IsConnections

/-- The error with which a statement was answered, if it was sent and failed. -/
def Exchange.failure? : Exchange → Option Error
  | .executed _ answer => Outcome.errorOf answer
  | .fetchedFirst _ answer => Outcome.errorOf answer
  | .fetchedAll _ answer => Outcome.errorOf answer
  | .called _ _ | .controlled _ _ | .reported _ => none

/-- Every statement of a transcript that failed did so in the ways of a connection. -/
def FromConnection (exchanges : List Exchange) : Prop :=
  ∀ exchange ∈ exchanges, ∀ error, exchange.failure? = some error → error.IsConnections

theorem fromConnection_append {opening closing : List Exchange} :
    FromConnection (opening ++ closing) ↔ FromConnection opening ∧ FromConnection closing :=
  List.forall_mem_append

theorem fromConnection_cons {first : Exchange} {rest : List Exchange} :
    FromConnection (first :: rest) ↔
      (∀ error, first.failure? = some error → error.IsConnections) ∧ FromConnection rest :=
  List.forall_mem_cons

/-- What a program and an environment say to each other is from a connection if the environment
is one. -/
theorem Environment.IsConnection.fromConnection {State Result : Type}
    {environment : Environment State} (connection : environment.IsConnection)
    (program : Program Result) (state : State) :
    FromConnection (program.exchanges environment state) := by
  induction program generalizing state with
  | done result =>
    rw [Program.exchanges]
    exact List.forall_mem_nil _
  | execute statement next inductionHypothesis =>
    rw [Program.exchanges]
    exact fromConnection_cons.mpr
      ⟨fun error failed => connection.execute _ _ _ (Outcome.errorOf_eq_some.mp failed),
        inductionHypothesis _ _⟩
  | fetchFirst statement next inductionHypothesis =>
    rw [Program.exchanges]
    exact fromConnection_cons.mpr
      ⟨fun error failed => connection.fetchFirst _ _ _ (Outcome.errorOf_eq_some.mp failed),
        inductionHypothesis _ _⟩
  | fetchAll statement next inductionHypothesis =>
    rw [Program.exchanges]
    exact fromConnection_cons.mpr
      ⟨fun error failed => connection.fetchAll _ _ _ (Outcome.errorOf_eq_some.mp failed),
        inductionHypothesis _ _⟩
  | call hook next inductionHypothesis =>
    rw [Program.exchanges]
    exact fromConnection_cons.mpr ⟨nofun, inductionHypothesis _ _⟩
  | control step next inductionHypothesis =>
    rw [Program.exchanges]
    exact fromConnection_cons.mpr ⟨nofun, inductionHypothesis _ _⟩
  | report entry next inductionHypothesis =>
    rw [Program.exchanges]
    exact fromConnection_cons.mpr ⟨nofun, inductionHypothesis _⟩

namespace Operation

variable {Held Result First Second : Type}

/-! ### Operations that spare the caller -/

/-- However a connection answers, the operation never fails by a fault of the caller. -/
def Spares (operation : Operation Held Result) : Prop :=
  ∀ held exchanges error after, FromConnection exchanges →
    Runs operation held exchanges (.error error) after → error.blamesCaller = false

theorem spares_ofExcept {given : Except Error Result}
    (spared : ∀ error, given = .error error → error.blamesCaller = false) :
    Spares (ofExcept given : Operation Held Result) := by
  intro held exchanges error after _ runs
  exact spared error (runs_ofExcept.mp runs).2.1.symm

theorem spares_fail {error : Error} (spared : error.blamesCaller = false) :
    Spares (fail error : Operation Held Result) := by
  intro held exchanges other after _ runs
  cases (runs_fail.mp runs).2.1
  exact spared

theorem spares_pure (result : Result) : Spares (Pure.pure result : Operation Held Result) := by
  intro held exchanges error after _ runs
  cases (runs_pure.mp runs).2.1

theorem spares_hold (value : Held) : Spares (hold value) :=
  fun _ _ _ _ answers runs => spares_pure () _ _ _ _ answers runs

theorem spares_call (hook : HookCall) : Spares (call hook : Operation Held HookReturn) := by
  intro held exchanges error after _ runs
  obtain ⟨answer, -, equal, -⟩ := runs_call.mp runs
  cases equal

theorem spares_report (level : LogLevel) (message : String) :
    Spares (report level message : Operation Held Unit) := by
  intro held exchanges error after _ runs
  cases (runs_report.mp runs).2.1

theorem spares_execute (statement : Statement) :
    Spares (execute statement : Operation Held Outcome) := by
  intro held exchanges error after answers runs
  obtain ⟨rfl, -⟩ := runs_execute.mp runs
  exact (answers _ List.mem_cons_self error rfl).blamesCaller

theorem spares_fetchFirst (statement : Statement) :
    Spares (fetchFirst statement : Operation Held (Option Row)) := by
  intro held exchanges error after answers runs
  obtain ⟨rfl, -⟩ := runs_fetchFirst.mp runs
  exact (answers _ List.mem_cons_self error rfl).blamesCaller

theorem spares_fetchAll (statement : Statement) :
    Spares (fetchAll statement : Operation Held (List Row)) := by
  intro held exchanges error after answers runs
  obtain ⟨rfl, -⟩ := runs_fetchAll.mp runs
  exact (answers _ List.mem_cons_self error rfl).blamesCaller

theorem Spares.during {operation : Operation Held Result} (spares : Spares operation)
    (name record : String) : Spares (operation.during name record) := by
  intro held exchanges error after answers runs
  obtain ⟨answer, ran, equal⟩ := runs_during.mp runs
  cases answer with
  | ok result => cases equal
  | error inner =>
    cases equal
    rw [Error.blamesCaller_during]
    exact spares _ _ _ _ answers ran

theorem Spares.bind {operation : Operation Held First} {next : First → Operation Held Second}
    (first : Spares operation) (second : ∀ result, Spares (next result)) :
    Spares (operation >>= next) := by
  intro held exchanges error after answers runs
  rcases runs_bind.mp runs with ⟨inner, failed, equal⟩ |
    ⟨opening, result, middle, closing, rfl, opened, closed⟩
  · cases equal
    exact first _ _ _ _ answers failed
  · exact second result _ _ _ _ (fromConnection_append.mp answers).2 closed

/-- A computation that has a result cannot be what fails. -/
theorem spares_ofExcept_bind {given : Except Error First} {next : First → Operation Held Result}
    {result : First} (succeeded : given = .ok result) (spares : Spares (next result)) :
    Spares (ofExcept given >>= next) := by
  subst succeeded
  exact fun held exchanges error after answers runs => spares _ _ _ _ answers runs

theorem spares_held_bind {next : Held → Operation Held Result}
    (each : ∀ held, Spares (next held)) : Spares (Operation.held >>= next) :=
  fun held _ _ _ answers runs => each held _ _ _ _ answers (runs_held_bind.mp runs)

/-! ### Operations that blame the caller early -/

/-- However a connection answers, where the operation fails by a fault of the caller it has sent
nothing. -/
def BlamesEarly (operation : Operation Held Result) : Prop :=
  ∀ held exchanges error after, FromConnection exchanges →
    Runs operation held exchanges (.error error) after → error.blamesCaller = true →
      statements exchanges = []

theorem Spares.blamesEarly {operation : Operation Held Result} (spares : Spares operation) :
    BlamesEarly operation := by
  intro held exchanges error after answers runs blames
  rw [spares _ _ _ _ answers runs] at blames
  cases blames

theorem blamesEarly_fail (error : Error) : BlamesEarly (fail error : Operation Held Result) :=
  fun _ _ _ _ _ runs _ => isSilent_fail error _ _ _ _ runs

/-- After something silent the caller may still be blamed. -/
theorem IsSilent.bind_blamesEarly {operation : Operation Held First}
    {next : First → Operation Held Second} (silent : IsSilent operation)
    (early : ∀ held opening result middle, Runs operation held opening (.ok result) middle →
      BlamesEarly (next result)) : BlamesEarly (operation >>= next) := by
  intro held exchanges error after answers runs blames
  rcases runs_bind.mp runs with ⟨inner, failed, -⟩ |
    ⟨opening, result, middle, closing, rfl, opened, closed⟩
  · exact silent _ _ _ _ failed
  · rw [statements_append, silent _ _ _ _ opened, List.nil_append]
    exact early _ _ _ _ opened _ _ _ _ (fromConnection_append.mp answers).2 closed blames

theorem blamesEarly_ofExcept_bind {given : Except Error First}
    {next : First → Operation Held Result}
    (early : ∀ result, given = .ok result → BlamesEarly (next result)) :
    BlamesEarly (ofExcept given >>= next) :=
  (isSilent_ofExcept given).bind_blamesEarly fun _ _ result _ opened =>
    early result (runs_ofExcept.mp opened).2.1.symm

theorem blamesEarly_held_bind {next : Held → Operation Held Result}
    (early : ∀ held, BlamesEarly (next held)) : BlamesEarly (Operation.held >>= next) :=
  fun held _ _ _ answers runs => early held _ _ _ _ answers (runs_held_bind.mp runs)

/-- On a connection, an operation that ends by a fault of the caller has sent nothing. -/
theorem BlamesEarly.statements_exchanges {operation : Operation Held Result}
    (early : BlamesEarly operation) {State : Type} {environment : Environment State}
    (connection : environment.IsConnection) {held : Held} {state : State} {error : Error}
    (ended : Outcome.errorOf ((operation held).run environment state).1.1 = some error)
    (blames : error.blamesCaller = true) :
    statements ((operation held).exchanges environment state) = [] := by
  have runs : Runs operation held ((operation held).exchanges environment state) (.error error)
      ((operation held).run environment state).1.2 := by
    rw [← Outcome.errorOf_eq_some.mp ended]
    exact Program.runs_exchanges environment (operation held) state
  exact early _ _ _ _ (connection.fromConnection _ _) runs blames

end Operation

end RecordMapper
