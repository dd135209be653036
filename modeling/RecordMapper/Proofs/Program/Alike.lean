/-
This file compares programs that get different verdicts of hooks after statements. Two programs are
alike if they make the same requests and end alike whatever is answered, where the answers to a hook
after a statement may differ in its verdict; a report that only one of them writes does not matter.
Under two environments that answer alike, alike programs send the same statements and have the same
result. So an operation that is alike to itself pays no heed to what such a hook thinks of it.
-/

import RecordMapper.Proofs.Program.Operation

namespace RecordMapper

/-- Whether a hook is called after statements and not before them. -/
def Hook.isAfter : Hook → Bool
  | .afterCreate | .afterUpdate | .afterDelete | .afterFind => true
  | .beforeCreate | .beforeUpdate | .beforeDelete => false

/-- Two answers of a hook agree if they differ in the verdict at most, and in this only where the
hook is called after statements. -/
structure HookReturn.Agrees (hook : Hook) (first second : HookReturn) : Prop where
  record : first.record = second.record
  changes : first.changes = second.changes
  outcome : hook.isAfter = false → first.outcome = second.outcome

theorem HookReturn.Agrees.eq {hook : Hook} {first second : HookReturn}
    (agrees : first.Agrees hook second) (isBefore : hook.isAfter = false) : first = second := by
  obtain ⟨record, changes, outcome⟩ := agrees
  cases first
  cases second
  simp only [HookReturn.mk.injEq]
  exact ⟨record, changes, outcome isBefore⟩

/-! ### Calls of a transcript -/

/-- The hook that an exchange calls, with what it is called on. -/
def Exchange.call? : Exchange → Option HookCall
  | .called call _ => some call
  | _ => none

/-- The calls of hooks in a transcript, in order. -/
def calls (exchanges : List Exchange) : List HookCall :=
  exchanges.filterMap Exchange.call?

@[simp]
theorem calls_nil : calls [] = [] := rfl

@[simp]
theorem calls_append (opening closing : List Exchange) :
    calls (opening ++ closing) = calls opening ++ calls closing :=
  List.filterMap_append

/-! ### Alike programs -/

/-- Two programs make the same requests and end alike, reports and verdicts of hooks after
statements apart. -/
inductive Program.Alike {Result : Type} : Program Result → Program Result → Prop
  | done (result : Result) : Alike (.done result) (.done result)
  | execute {statement next other} :
      (∀ answer, Alike (next answer) (other answer)) →
        Alike (.execute statement next) (.execute statement other)
  | fetchFirst {statement next other} :
      (∀ answer, Alike (next answer) (other answer)) →
        Alike (.fetchFirst statement next) (.fetchFirst statement other)
  | fetchAll {statement next other} :
      (∀ answer, Alike (next answer) (other answer)) →
        Alike (.fetchAll statement next) (.fetchAll statement other)
  | call {call next other} :
      (∀ first second, first.Agrees call.hook second → Alike (next first) (other second)) →
        Alike (.call call next) (.call call other)
  | control {step next other} :
      (∀ answer, Alike (next answer) (other answer)) →
        Alike (.control step next) (.control step other)
  | reportLeft {entry program other} :
      Alike program other → Alike (.report entry program) other
  | reportRight {entry program other} :
      Alike program other → Alike program (.report entry other)

/-- Alike programs that are followed by alike programs are alike. -/
theorem Program.Alike.bind {First Second : Type} {program other : Program First}
    {next later : First → Program Second} (alike : Program.Alike program other)
    (follow : ∀ result, Program.Alike (next result) (later result)) :
    Program.Alike (program.bind next) (other.bind later) := by
  induction alike with
  | done result => exact follow result
  | execute _ inductionHypothesis => exact .execute inductionHypothesis
  | fetchFirst _ inductionHypothesis => exact .fetchFirst inductionHypothesis
  | fetchAll _ inductionHypothesis => exact .fetchAll inductionHypothesis
  | call _ inductionHypothesis => exact .call inductionHypothesis
  | control _ inductionHypothesis => exact .control inductionHypothesis
  | reportLeft _ inductionHypothesis => exact .reportLeft inductionHypothesis
  | reportRight _ inductionHypothesis => exact .reportRight inductionHypothesis

/-- A program that calls no hook is alike to itself. -/
theorem Program.alike_self {Result : Type} {program : Program Result}
    (callsNone : ∀ exchanges result, Program.Runs program exchanges result →
      calls exchanges = []) : Program.Alike program program := by
  induction program with
  | done result => exact .done result
  | execute statement next inductionHypothesis =>
    exact .execute fun answer => inductionHypothesis answer fun exchanges result runs =>
      callsNone (.executed statement answer :: exchanges) result (.execute runs)
  | fetchFirst statement next inductionHypothesis =>
    exact .fetchFirst fun answer => inductionHypothesis answer fun exchanges result runs =>
      callsNone (.fetchedFirst statement answer :: exchanges) result (.fetchFirst runs)
  | fetchAll statement next inductionHypothesis =>
    exact .fetchAll fun answer => inductionHypothesis answer fun exchanges result runs =>
      callsNone (.fetchedAll statement answer :: exchanges) result (.fetchAll runs)
  | call call next inductionHypothesis =>
    -- Some run of the program begins with the call.
    have called := callsNone _ _ (Program.runs_exchanges .empty (.call call next) ())
    cases called
  | control step next inductionHypothesis =>
    exact .control fun answer => inductionHypothesis answer fun exchanges result runs =>
      callsNone (.controlled step answer :: exchanges) result (.control runs)
  | report entry next inductionHypothesis =>
    exact .reportLeft (.reportRight (inductionHypothesis fun exchanges result runs =>
      callsNone (.reported entry :: exchanges) result (.report runs)))

namespace Operation

variable {Held Result First Second : Type}

/-- An operation that pays no heed to the verdicts of hooks after statements. -/
def Heedless (operation : Operation Held Result) : Prop :=
  ∀ held, Program.Alike (operation held) (operation held)

theorem heedless_ofExcept (given : Except Error Result) :
    Heedless (ofExcept given : Operation Held Result) :=
  fun held => .done (given, held)

theorem heedless_pure (result : Result) : Heedless (Pure.pure result : Operation Held Result) :=
  heedless_ofExcept (.ok result)

theorem heedless_fail (error : Error) : Heedless (fail error : Operation Held Result) :=
  heedless_ofExcept (.error error)

theorem heedless_hold (value : Held) : Heedless (hold value) :=
  fun _ => .done (Except.ok (), value)

theorem Heedless.bind {operation : Operation Held First} {next : First → Operation Held Second}
    (heedless : Heedless operation) (follow : ∀ result, Heedless (next result)) :
    Heedless (operation >>= next) := by
  intro held
  refine (heedless held).bind fun (outcome, after) => ?_
  cases outcome with
  | error error => exact .done (Except.error error, after)
  | ok result => exact follow result after

theorem heedless_held_bind {next : Held → Operation Held Result}
    (heedless : ∀ held, Heedless (next held)) : Heedless (Operation.held >>= next) :=
  fun held => heedless held held

theorem heedless_within {Inner : Type} {operation : Operation Inner Result}
    (heedless : Heedless operation) (value : Inner) :
    Heedless (within value operation : Operation Held (Except Error Result × Inner)) :=
  fun held => (heedless value).bind fun result => .done (Except.ok result, held)

end Operation

/-! ### Environments that answer alike -/

variable {State Other : Type}

/-- Two answers are the same, and the states in which they leave two environments correspond. -/
def SameAnswer (alike : State → Other → Prop) {Answer : Type} (first : Answer × State)
    (second : Answer × Other) : Prop :=
  first.1 = second.1 ∧ alike first.2 second.2

/-- Two environments whose states correspond answer everything alike, but for the verdicts of hooks
after statements; their answers do not depend on what has been reported. -/
structure Environment.Agrees (first : Environment State) (second : Environment Other)
    (alike : State → Other → Prop) : Prop where
  execute : ∀ {state other}, alike state other → ∀ statement,
    SameAnswer alike (first.execute statement state) (second.execute statement other)
  fetchFirst : ∀ {state other}, alike state other → ∀ statement,
    SameAnswer alike (first.fetchFirst statement state) (second.fetchFirst statement other)
  fetchAll : ∀ {state other}, alike state other → ∀ statement,
    SameAnswer alike (first.fetchAll statement state) (second.fetchAll statement other)
  call : ∀ {state other}, alike state other → ∀ call,
    (first.call call state).1.Agrees call.hook (second.call call other).1 ∧
      alike (first.call call state).2 (second.call call other).2
  control : ∀ {state other}, alike state other → ∀ step,
    SameAnswer alike (first.control step state) (second.control step other)
  reportLeft : ∀ {state other}, alike state other → ∀ entry,
    alike (first.report entry state) other
  reportRight : ∀ {state other}, alike state other → ∀ entry,
    alike state (second.report entry other)

/-- Under environments that answer alike, alike programs have the same result, send the same
statements and end in states that correspond. -/
theorem Program.Alike.sameRun {Result : Type} {first : Environment State}
    {second : Environment Other} {alike : State → Other → Prop}
    (agrees : first.Agrees second alike) {program other : Program Result}
    (programs : Program.Alike program other) {state : State} {counterpart : Other}
    (states : alike state counterpart) :
    SameAnswer alike (program.run first state) (other.run second counterpart) ∧
      statements (program.exchanges first state) =
        statements (other.exchanges second counterpart) := by
  induction programs generalizing state counterpart with
  | done result => exact ⟨⟨rfl, states⟩, rfl⟩
  | execute _ inductionHypothesis =>
    rename_i statement next other _
    obtain ⟨same, after⟩ := agrees.execute states statement
    obtain ⟨ends, sends⟩ := inductionHypothesis _ after
    rw [Program.run, Program.run, Program.exchanges, Program.exchanges]
    simp only [← same]
    exact ⟨ends, congrArg (statement :: ·) sends⟩
  | fetchFirst _ inductionHypothesis =>
    rename_i statement next other _
    obtain ⟨same, after⟩ := agrees.fetchFirst states statement
    obtain ⟨ends, sends⟩ := inductionHypothesis _ after
    rw [Program.run, Program.run, Program.exchanges, Program.exchanges]
    simp only [← same]
    exact ⟨ends, congrArg (statement :: ·) sends⟩
  | fetchAll _ inductionHypothesis =>
    rename_i statement next other _
    obtain ⟨same, after⟩ := agrees.fetchAll states statement
    obtain ⟨ends, sends⟩ := inductionHypothesis _ after
    rw [Program.run, Program.run, Program.exchanges, Program.exchanges]
    simp only [← same]
    exact ⟨ends, congrArg (statement :: ·) sends⟩
  | call _ inductionHypothesis =>
    rename_i call next other _
    obtain ⟨same, after⟩ := agrees.call states call
    exact inductionHypothesis _ _ same after
  | control _ inductionHypothesis =>
    rename_i step next other _
    obtain ⟨same, after⟩ := agrees.control states step
    obtain ⟨ends, sends⟩ := inductionHypothesis _ after
    rw [Program.run, Program.run, Program.exchanges, Program.exchanges]
    simp only [← same]
    exact ⟨ends, sends⟩
  | reportLeft _ inductionHypothesis => exact inductionHypothesis (agrees.reportLeft states _)
  | reportRight _ inductionHypothesis => exact inductionHypothesis (agrees.reportRight states _)

end RecordMapper
