/-
This file carries transcripts from programs to operations. Each way of making an operation gets one
lemma that says which transcripts it has, with which outcome it ends and in what state it leaves
the value it works on; the operations of the library are taken apart by these lemmas only. An
operation that never sends a statement of its own is called silent, and whatever is put together
from silent operations is silent.
-/

import RecordMapper.Proofs.Program.Transcript

namespace RecordMapper

/-! ### Statements of a transcript -/

@[simp]
theorem statements_nil : statements [] = [] := rfl

@[simp]
theorem statements_append (opening closing : List Exchange) :
    statements (opening ++ closing) = statements opening ++ statements closing :=
  List.filterMap_append

@[simp]
theorem statements_executed (statement : Statement) (answer : Except Error Outcome) :
    statements [.executed statement answer] = [statement] := rfl

@[simp]
theorem statements_fetchedFirst (statement : Statement) (answer : Except Error (Option Row)) :
    statements [.fetchedFirst statement answer] = [statement] := rfl

@[simp]
theorem statements_fetchedAll (statement : Statement) (answer : Except Error (List Row)) :
    statements [.fetchedAll statement answer] = [statement] := rfl

namespace Operation

variable {Held Result First Second : Type}

theorem pure_bind (result : First) (next : First → Operation Held Second) :
    (Pure.pure result >>= next) = next result := rfl

/-! ### Transcripts of operations -/

/-- An operation on a held value can have a transcript, end with an outcome and leave the value in
a state. -/
def Runs (operation : Operation Held Result) (held : Held) (exchanges : List Exchange)
    (outcome : Except Error Result) (after : Held) : Prop :=
  Program.Runs (operation held) exchanges (outcome, after)

section

variable {held after : Held} {exchanges : List Exchange} {outcome : Except Error Result}

theorem runs_pure {result : Result} :
    Runs (Pure.pure result) held exchanges outcome after ↔
      exchanges = [] ∧ outcome = .ok result ∧ after = held := by
  rw [← Prod.mk.injEq]
  exact Program.runs_done

theorem runs_fail {error : Error} :
    Runs (fail error) held exchanges outcome after ↔
      exchanges = [] ∧ outcome = .error error ∧ after = held := by
  rw [← Prod.mk.injEq]
  exact Program.runs_done

theorem runs_ofExcept {given : Except Error Result} :
    Runs (ofExcept given) held exchanges outcome after ↔
      exchanges = [] ∧ outcome = given ∧ after = held := by
  rw [← Prod.mk.injEq]
  exact Program.runs_done

/-- An operation after another one ends where the first fails, or goes on from where it succeeds. -/
theorem runs_bind {operation : Operation Held First} {next : First → Operation Held Result} :
    Runs (operation >>= next) held exchanges outcome after ↔
      (∃ error, Runs operation held exchanges (.error error) after ∧ outcome = .error error) ∨
        ∃ opening result middle closing, exchanges = opening ++ closing ∧
          Runs operation held opening (.ok result) middle ∧
          Runs (next result) middle closing outcome after := by
  constructor
  · intro runs
    obtain ⟨opening, ⟨answer, middle⟩, closing, rfl, first, second⟩ := Program.runs_bind.mp runs
    cases answer with
    | error error =>
      obtain ⟨rfl, equal⟩ := Program.runs_done.mp second
      injection equal with outcomeEqual afterEqual
      subst outcomeEqual afterEqual
      exact .inl ⟨error, by rw [List.append_nil]; exact first, rfl⟩
    | ok result => exact .inr ⟨opening, result, middle, closing, rfl, first, second⟩
  · rintro (⟨error, first, rfl⟩ | ⟨opening, result, middle, closing, rfl, first, second⟩)
    · exact Program.runs_bind.mpr
        ⟨exchanges, _, [], (List.append_nil _).symm, first, .done _⟩
    · exact Program.runs_bind.mpr ⟨opening, _, closing, rfl, first, second⟩

theorem runs_ofExcept_bind {given : Except Error First} {next : First → Operation Held Result} :
    Runs (ofExcept given >>= next) held exchanges outcome after ↔
      (∃ error, given = .error error ∧ exchanges = [] ∧ outcome = .error error ∧ after = held) ∨
        ∃ result, given = .ok result ∧ Runs (next result) held exchanges outcome after := by
  rw [runs_bind]
  constructor
  · rintro (⟨error, first, rfl⟩ | ⟨opening, result, middle, closing, rfl, first, second⟩)
    · obtain ⟨rfl, equal, rfl⟩ := runs_ofExcept.mp first
      exact .inl ⟨error, equal.symm, rfl, rfl, rfl⟩
    · obtain ⟨rfl, equal, rfl⟩ := runs_ofExcept.mp first
      exact .inr ⟨result, equal.symm, second⟩
  · rintro (⟨error, rfl, rfl, rfl, rfl⟩ | ⟨result, rfl, second⟩)
    · exact .inl ⟨error, runs_ofExcept.mpr ⟨rfl, rfl, rfl⟩, rfl⟩
    · exact .inr ⟨[], result, held, exchanges, rfl, runs_ofExcept.mpr ⟨rfl, rfl, rfl⟩, second⟩

theorem runs_held_bind {next : Held → Operation Held Result} :
    Runs (Operation.held >>= next) held exchanges outcome after ↔
      Runs (next held) held exchanges outcome after := Iff.rfl

theorem runs_hold_bind {value : Held} {next : Unit → Operation Held Result} :
    Runs (hold value >>= next) held exchanges outcome after ↔
      Runs (next ()) value exchanges outcome after := Iff.rfl

/-- Naming an operation in its failures changes nothing else about it. -/
theorem runs_during {operation : Operation Held Result} {name record : String} :
    Runs (operation.during name record) held exchanges outcome after ↔
      ∃ answer, Runs operation held exchanges answer after ∧
        outcome = answer.mapError (Error.during name record) := by
  constructor
  · intro runs
    obtain ⟨opening, ⟨answer, middle⟩, closing, rfl, first, second⟩ := Program.runs_bind.mp runs
    obtain ⟨rfl, equal⟩ := Program.runs_done.mp second
    injection equal with outcomeEqual afterEqual
    subst outcomeEqual afterEqual
    exact ⟨answer, by rw [List.append_nil]; exact first, rfl⟩
  · rintro ⟨answer, first, rfl⟩
    exact Program.runs_bind.mpr ⟨exchanges, _, [], (List.append_nil _).symm, first, .done _⟩

/-- An operation on a value of its own always succeeds and leaves the caller's value alone. -/
theorem runs_within {Inner : Type} {value : Inner} {operation : Operation Inner First}
    {outcome : Except Error (Except Error First × Inner)} :
    Runs (within value operation) held exchanges outcome after ↔
      ∃ answer, outcome = .ok answer ∧ after = held ∧
        Runs operation value exchanges answer.1 answer.2 := by
  constructor
  · intro runs
    obtain ⟨opening, answer, closing, rfl, first, second⟩ := Program.runs_bind.mp runs
    obtain ⟨rfl, equal⟩ := Program.runs_done.mp second
    injection equal with outcomeEqual afterEqual
    exact ⟨answer, outcomeEqual, afterEqual, by rw [List.append_nil]; exact first⟩
  · rintro ⟨answer, rfl, rfl, first⟩
    exact Program.runs_bind.mpr ⟨exchanges, _, [], (List.append_nil _).symm, first, .done _⟩

end

section

variable {held after : Held} {exchanges : List Exchange}

theorem runs_execute {statement : Statement} {outcome : Except Error Outcome} :
    Runs (execute statement) held exchanges outcome after ↔
      exchanges = [.executed statement outcome] ∧ after = held := by
  constructor
  · intro runs
    cases runs with
    | execute later =>
      cases later with
      | done => exact ⟨rfl, rfl⟩
  · rintro ⟨rfl, rfl⟩
    exact .execute (.done _)

theorem runs_fetchFirst {statement : Statement} {outcome : Except Error (Option Row)} :
    Runs (fetchFirst statement) held exchanges outcome after ↔
      exchanges = [.fetchedFirst statement outcome] ∧ after = held := by
  constructor
  · intro runs
    cases runs with
    | fetchFirst later =>
      cases later with
      | done => exact ⟨rfl, rfl⟩
  · rintro ⟨rfl, rfl⟩
    exact .fetchFirst (.done _)

theorem runs_fetchAll {statement : Statement} {outcome : Except Error (List Row)} :
    Runs (fetchAll statement) held exchanges outcome after ↔
      exchanges = [.fetchedAll statement outcome] ∧ after = held := by
  constructor
  · intro runs
    cases runs with
    | fetchAll later =>
      cases later with
      | done => exact ⟨rfl, rfl⟩
  · rintro ⟨rfl, rfl⟩
    exact .fetchAll (.done _)

theorem runs_call {hook : HookCall} {outcome : Except Error HookReturn} :
    Runs (call hook) held exchanges outcome after ↔
      ∃ answer, exchanges = [.called hook answer] ∧ outcome = .ok answer ∧ after = held := by
  constructor
  · intro runs
    cases runs with
    | call later =>
      cases later with
      | done => exact ⟨_, rfl, rfl, rfl⟩
  · rintro ⟨answer, rfl, rfl, rfl⟩
    exact .call (.done _)

theorem runs_report {level : LogLevel} {message : String} {outcome : Except Error Unit} :
    Runs (report level message) held exchanges outcome after ↔
      exchanges = [.reported ⟨level, message⟩] ∧ outcome = .ok () ∧ after = held := by
  constructor
  · intro runs
    cases runs with
    | report later =>
      cases later with
      | done => exact ⟨rfl, rfl, rfl⟩
  · rintro ⟨rfl, rfl, rfl⟩
    exact .report (.done _)

end

/-! ### What an operation sends -/

/-- Whatever is answered to it, an operation sends exactly the given statements of its own. -/
def Sends (operation : Operation Held Result) (sent : List Statement) : Prop :=
  ∀ held exchanges outcome after, Runs operation held exchanges outcome after →
    statements exchanges = sent

/-- An operation that sends no statement of its own. -/
abbrev IsSilent (operation : Operation Held Result) : Prop :=
  Sends operation []

theorem isSilent_pure (result : Result) : IsSilent (Pure.pure result : Operation Held Result) := by
  intro held exchanges outcome after runs
  rw [(runs_pure.mp runs).1, statements_nil]

theorem isSilent_fail (error : Error) : IsSilent (fail error : Operation Held Result) := by
  intro held exchanges outcome after runs
  rw [(runs_fail.mp runs).1, statements_nil]

theorem isSilent_ofExcept (given : Except Error Result) :
    IsSilent (ofExcept given : Operation Held Result) := by
  intro held exchanges outcome after runs
  rw [(runs_ofExcept.mp runs).1, statements_nil]

theorem isSilent_call (hook : HookCall) : IsSilent (call hook : Operation Held HookReturn) := by
  intro held exchanges outcome after runs
  obtain ⟨answer, rfl, -, -⟩ := runs_call.mp runs
  rfl

theorem isSilent_report (level : LogLevel) (message : String) :
    IsSilent (report level message : Operation Held Unit) := by
  intro held exchanges outcome after runs
  rw [(runs_report.mp runs).1]
  rfl

theorem sends_execute (statement : Statement) (name record : String) :
    Sends ((execute statement).during name record : Operation Held Outcome) [statement] := by
  intro held exchanges outcome after runs
  obtain ⟨answer, sent, -⟩ := runs_during.mp runs
  rw [(runs_execute.mp sent).1, statements_executed]

theorem sends_fetchFirst (statement : Statement) (name record : String) :
    Sends ((fetchFirst statement).during name record : Operation Held (Option Row))
      [statement] := by
  intro held exchanges outcome after runs
  obtain ⟨answer, sent, -⟩ := runs_during.mp runs
  rw [(runs_fetchFirst.mp sent).1, statements_fetchedFirst]

theorem sends_fetchAll (statement : Statement) (name record : String) :
    Sends ((fetchAll statement).during name record : Operation Held (List Row))
      [statement] := by
  intro held exchanges outcome after runs
  obtain ⟨answer, sent, -⟩ := runs_during.mp runs
  rw [(runs_fetchAll.mp sent).1, statements_fetchedAll]

/-- What a silent operation follows is all that is sent. -/
theorem Sends.bind {operation : Operation Held First} {next : First → Operation Held Second}
    {sent : List Statement} (first : Sends operation sent)
    (second : ∀ result, IsSilent (next result)) : Sends (operation >>= next) sent := by
  intro held exchanges outcome after runs
  rcases runs_bind.mp runs with ⟨error, failed, -⟩ |
    ⟨opening, result, middle, closing, rfl, opened, closed⟩
  · exact first _ _ _ _ failed
  · rw [statements_append, first _ _ _ _ opened, second result _ _ _ _ closed, List.append_nil]

/-- What is sent before something silent is all that is sent. -/
theorem statements_of_bind {operation : Operation Held First}
    {next : First → Operation Held Second} {held after : Held} {exchanges : List Exchange}
    {outcome : Except Error Second} (silent : ∀ result, IsSilent (next result))
    (runs : Runs (operation >>= next) held exchanges outcome after) :
    ∃ opening answer middle, Runs operation held opening answer middle ∧
      statements exchanges = statements opening := by
  rcases runs_bind.mp runs with ⟨error, failed, -⟩ |
    ⟨opening, result, middle, closing, rfl, opened, closed⟩
  · exact ⟨exchanges, _, _, failed, rfl⟩
  · refine ⟨opening, _, _, opened, ?_⟩
    rw [statements_append, silent result _ _ _ _ closed, List.append_nil]

theorem isSilent_held_bind {next : Held → Operation Held Result}
    (silent : ∀ held, IsSilent (next held)) : IsSilent (Operation.held >>= next) :=
  fun held _ _ _ runs => silent held _ _ _ _ (runs_held_bind.mp runs)

theorem isSilent_hold_bind {value : Held} {next : Unit → Operation Held Result}
    (silent : IsSilent (next ())) : IsSilent (hold value >>= next) :=
  fun _ _ _ _ runs => silent _ _ _ _ (runs_hold_bind.mp runs)

theorem isSilent_hold (value : Held) : IsSilent (hold value) :=
  fun _ _ _ _ runs => isSilent_pure () _ _ _ _ runs

/-! ### What an operation begins with -/

/-- Whatever is answered to it, an operation begins with sending a statement. -/
def BeginsWith (operation : Operation Held Result) (statement : Statement) : Prop :=
  ∀ held exchanges outcome after, Runs operation held exchanges outcome after →
    ∃ first rest, exchanges = first :: rest ∧ first.statement? = some statement

theorem beginsWith_execute (statement : Statement) (name record : String) :
    BeginsWith ((execute statement).during name record : Operation Held Outcome) statement := by
  intro held exchanges outcome after runs
  obtain ⟨answer, sent, -⟩ := runs_during.mp runs
  exact ⟨.executed statement answer, [], (runs_execute.mp sent).1, rfl⟩

theorem BeginsWith.bind {operation : Operation Held First} {next : First → Operation Held Second}
    {statement : Statement} (first : BeginsWith operation statement) :
    BeginsWith (operation >>= next) statement := by
  intro held exchanges outcome after runs
  rcases runs_bind.mp runs with ⟨error, failed, -⟩ |
    ⟨opening, result, middle, closing, rfl, opened, -⟩
  · exact first _ _ _ _ failed
  · obtain ⟨exchange, rest, rfl, sent⟩ := first _ _ _ _ opened
    exact ⟨exchange, rest ++ closing, rfl, sent⟩

end Operation

end RecordMapper
