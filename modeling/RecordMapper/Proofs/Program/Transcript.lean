/-
This file writes down what a program and the world say to each other. An exchange is a request
with its answer, and a transcript is the list of them. Under an environment a program has one
transcript; over all environments it has many, and those are what a relation between programs,
transcripts and results describes. A fact about all transcripts that a program can have is a fact
about all databases and all hooks. For an operation the relation is taken apart along the way in
which the operation is put together, one lemma for each way.
-/

import RecordMapper.Program.Operation

namespace RecordMapper

/-! ### Transcripts -/

/-- A request of a program with the answer it got. -/
inductive Exchange
  | executed (statement : Statement) (answer : Except Error Outcome)
  | fetchedFirst (statement : Statement) (answer : Except Error (Option Row))
  | fetchedAll (statement : Statement) (answer : Except Error (List Row))
  | called (call : HookCall) (answer : HookReturn)
  | controlled (step : Control) (answer : Except Error Unit)
  | reported (entry : LogEntry)

/-- The statement of an exchange, if it sends one. -/
def Exchange.statement? : Exchange → Option Statement
  | .executed statement _ | .fetchedFirst statement _ | .fetchedAll statement _ => some statement
  | .called _ _ | .controlled _ _ | .reported _ => none

/-- The statements that are sent in a transcript, in order. Those that a hook sends are not among
them: a transcript shows of a hook only that it was called and what it left behind. -/
def statements (exchanges : List Exchange) : List Statement :=
  exchanges.filterMap Exchange.statement?

/-- What a program and an environment say to each other. -/
def Program.exchanges {State Result : Type} (environment : Environment State) :
    Program Result → State → List Exchange
  | .done _, _ => []
  | .execute statement next, state =>
    let (answer, after) := environment.execute statement state
    .executed statement answer :: (next answer).exchanges environment after
  | .fetchFirst statement next, state =>
    let (answer, after) := environment.fetchFirst statement state
    .fetchedFirst statement answer :: (next answer).exchanges environment after
  | .fetchAll statement next, state =>
    let (answer, after) := environment.fetchAll statement state
    .fetchedAll statement answer :: (next answer).exchanges environment after
  | .call hook next, state =>
    let (answer, after) := environment.call hook state
    .called hook answer :: (next answer).exchanges environment after
  | .control step next, state =>
    let (answer, after) := environment.control step state
    .controlled step answer :: (next answer).exchanges environment after
  | .report entry next, state =>
    .reported entry :: next.exchanges environment (environment.report entry state)

/-- An environment without rows, in which every request succeeds and no hook does anything. -/
def Environment.empty : Environment Unit where
  execute _ state := (.ok ⟨0, none⟩, state)
  fetchFirst _ state := (.ok none, state)
  fetchAll _ state := (.ok [], state)
  call call state := (⟨call.record, call.changes, .ok ()⟩, state)
  control _ state := (.ok (), state)
  report _ state := state

/-! ### All transcripts of a program -/

/-- A program can have a transcript and then end with a result. -/
inductive Program.Runs {Result : Type} : Program Result → List Exchange → Result → Prop
  | done (result : Result) : Runs (.done result) [] result
  | execute {statement next answer exchanges result} :
      Runs (next answer) exchanges result →
        Runs (.execute statement next) (.executed statement answer :: exchanges) result
  | fetchFirst {statement next answer exchanges result} :
      Runs (next answer) exchanges result →
        Runs (.fetchFirst statement next) (.fetchedFirst statement answer :: exchanges) result
  | fetchAll {statement next answer exchanges result} :
      Runs (next answer) exchanges result →
        Runs (.fetchAll statement next) (.fetchedAll statement answer :: exchanges) result
  | call {hook next answer exchanges result} :
      Runs (next answer) exchanges result →
        Runs (.call hook next) (.called hook answer :: exchanges) result
  | control {step next answer exchanges result} :
      Runs (next answer) exchanges result →
        Runs (.control step next) (.controlled step answer :: exchanges) result
  | report {entry next exchanges result} :
      Runs next exchanges result → Runs (.report entry next) (.reported entry :: exchanges) result

/-- What happens under an environment is one of the things that can happen. -/
theorem Program.runs_exchanges {State Result : Type} (environment : Environment State)
    (program : Program Result) (state : State) :
    Program.Runs program (program.exchanges environment state)
      (program.run environment state).1 := by
  induction program generalizing state with
  | done result => exact .done result
  | execute statement next inductionHypothesis => exact .execute (inductionHypothesis _ _)
  | fetchFirst statement next inductionHypothesis => exact .fetchFirst (inductionHypothesis _ _)
  | fetchAll statement next inductionHypothesis => exact .fetchAll (inductionHypothesis _ _)
  | call hook next inductionHypothesis => exact .call (inductionHypothesis _ _)
  | control step next inductionHypothesis => exact .control (inductionHypothesis _ _)
  | report entry next inductionHypothesis => exact .report (inductionHypothesis _)

theorem Program.runs_done {Result : Type} {given result : Result} {exchanges : List Exchange} :
    Program.Runs (.done given) exchanges result ↔ exchanges = [] ∧ result = given := by
  constructor
  · rintro ⟨⟩
    exact ⟨rfl, rfl⟩
  · rintro ⟨rfl, rfl⟩
    exact .done result

/-- A transcript of one program after another is a transcript of the first followed by one of
the second. -/
theorem Program.runs_bind {First Second : Type} {program : Program First}
    {next : First → Program Second} {exchanges : List Exchange} {result : Second} :
    Program.Runs (program.bind next) exchanges result ↔
      ∃ opening middle closing, exchanges = opening ++ closing ∧
        Program.Runs program opening middle ∧ Program.Runs (next middle) closing result := by
  constructor
  · intro runs
    induction program generalizing exchanges with
    | done given => exact ⟨[], given, exchanges, rfl, .done given, runs⟩
    | execute statement after inductionHypothesis =>
      cases runs with
      | execute later =>
        obtain ⟨opening, middle, closing, rfl, first, second⟩ := inductionHypothesis _ later
        exact ⟨_ :: opening, middle, closing, rfl, .execute first, second⟩
    | fetchFirst statement after inductionHypothesis =>
      cases runs with
      | fetchFirst later =>
        obtain ⟨opening, middle, closing, rfl, first, second⟩ := inductionHypothesis _ later
        exact ⟨_ :: opening, middle, closing, rfl, .fetchFirst first, second⟩
    | fetchAll statement after inductionHypothesis =>
      cases runs with
      | fetchAll later =>
        obtain ⟨opening, middle, closing, rfl, first, second⟩ := inductionHypothesis _ later
        exact ⟨_ :: opening, middle, closing, rfl, .fetchAll first, second⟩
    | call hook after inductionHypothesis =>
      cases runs with
      | call later =>
        obtain ⟨opening, middle, closing, rfl, first, second⟩ := inductionHypothesis _ later
        exact ⟨_ :: opening, middle, closing, rfl, .call first, second⟩
    | control step after inductionHypothesis =>
      cases runs with
      | control later =>
        obtain ⟨opening, middle, closing, rfl, first, second⟩ := inductionHypothesis _ later
        exact ⟨_ :: opening, middle, closing, rfl, .control first, second⟩
    | report entry after inductionHypothesis =>
      cases runs with
      | report later =>
        obtain ⟨opening, middle, closing, rfl, first, second⟩ := inductionHypothesis later
        exact ⟨_ :: opening, middle, closing, rfl, .report first, second⟩
  · rintro ⟨opening, middle, closing, rfl, first, second⟩
    induction first with
    | done given => exact second
    | execute _ inductionHypothesis => exact .execute (inductionHypothesis second)
    | fetchFirst _ inductionHypothesis => exact .fetchFirst (inductionHypothesis second)
    | fetchAll _ inductionHypothesis => exact .fetchAll (inductionHypothesis second)
    | call _ inductionHypothesis => exact .call (inductionHypothesis second)
    | control _ inductionHypothesis => exact .control (inductionHypothesis second)
    | report _ inductionHypothesis => exact .report (inductionHypothesis second)

end RecordMapper
