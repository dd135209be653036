/-
This file says where in a transcript hooks are called. What an operation does between its hooks is
plain: it calls none, and it succeeds only where each of its statements does. So a transcript falls
into an opening of calls, a plain stretch and a closing of calls, and no statement is sent in the
opening or the closing. The order of calls and statements is read off that frame once for all
operations.
-/

import RecordMapper.Proofs.Program.Alike
import RecordMapper.Proofs.Program.Blame
import RecordMapper.Proofs.Query.Sending

namespace RecordMapper

open Operation

/-! ### Frames -/

/-- Every statement of a transcript succeeded. -/
def Succeeded (exchanges : List Exchange) : Prop :=
  ∀ exchange ∈ exchanges, exchange.failure? = none

theorem succeeded_append {opening closing : List Exchange} :
    Succeeded (opening ++ closing) ↔ Succeeded opening ∧ Succeeded closing :=
  List.forall_mem_append

/-- Where no statement is sent none fails. -/
theorem succeeded_of_silent {exchanges : List Exchange} (silent : statements exchanges = []) :
    Succeeded exchanges := by
  intro exchange member
  have unsent := List.filterMap_eq_nil_iff.mp silent exchange member
  cases exchange <;> first | rfl | cases unsent

/-- Of a call and a statement the statement is earlier exactly if the hook is one that is called
after statements. -/
def InOrder (earlier later : Exchange) : Prop :=
  (earlier.statement?.isSome → ∀ call, later.call? = some call → call.hook.isAfter = true) ∧
    (later.statement?.isSome → ∀ call, earlier.call? = some call → call.hook.isAfter = false)

/-- A transcript opens with hooks before statements, goes on without hooks and closes with hooks
after statements, which are called only if every statement succeeded. -/
structure IsFrame (opening working closing : List Exchange) : Prop where
  opens : statements opening = []
  before : ∀ call ∈ calls opening, call.hook.isAfter = false
  works : calls working = []
  closes : statements closing = []
  after : ∀ call ∈ calls closing, call.hook.isAfter = true
  succeeds : calls closing ≠ [] → Succeeded working

namespace IsFrame

variable {opening working closing : List Exchange}

theorem calls_eq (frame : IsFrame opening working closing) :
    calls (opening ++ working ++ closing) = calls opening ++ calls closing := by
  rw [calls_append, calls_append, frame.works, List.append_nil]

theorem statements_eq (frame : IsFrame opening working closing) :
    statements (opening ++ working ++ closing) = statements working := by
  rw [statements_append, statements_append, frame.opens, frame.closes, List.nil_append,
    List.append_nil]

/-- The calls of a frame are in order with its statements. -/
theorem inOrder (frame : IsFrame opening working closing) :
    (opening ++ working ++ closing).Pairwise InOrder := by
  have openingSilent := List.filterMap_eq_nil_iff.mp frame.opens
  have workingCallsNone := List.filterMap_eq_nil_iff.mp frame.works
  have closingSilent := List.filterMap_eq_nil_iff.mp frame.closes
  have isBefore : ∀ exchange ∈ opening, ∀ call, exchange.call? = some call →
      call.hook.isAfter = false := fun exchange member call called =>
    frame.before call (List.mem_filterMap.mpr ⟨exchange, member, called⟩)
  have isAfter : ∀ exchange ∈ closing, ∀ call, exchange.call? = some call →
      call.hook.isAfter = true := fun exchange member call called =>
    frame.after call (List.mem_filterMap.mpr ⟨exchange, member, called⟩)
  rw [List.append_assoc, List.pairwise_append, List.pairwise_append]
  refine ⟨?_, ⟨?_, ?_, ?_⟩, ?_⟩
  · refine List.pairwise_of_forall_mem_list fun earlier first later second => ⟨?_, ?_⟩
    · simp [openingSilent earlier first]
    · simp [openingSilent later second]
  · refine List.pairwise_of_forall_mem_list fun earlier first later second => ⟨?_, ?_⟩
    · simp [workingCallsNone later second]
    · simp [workingCallsNone earlier first]
  · refine List.pairwise_of_forall_mem_list fun earlier first later second => ⟨?_, ?_⟩
    · simp [closingSilent earlier first]
    · simp [closingSilent later second]
  · refine fun earlier first later second => ⟨fun _ => isAfter later second, ?_⟩
    simp [workingCallsNone earlier first]
  · refine fun earlier first later second => ⟨?_, fun _ => isBefore earlier first⟩
    simp [openingSilent earlier first]

/-- A hook after statements is called in the closing. -/
theorem mem_closing (frame : IsFrame opening working closing) {call : HookCall}
    (called : call ∈ calls (opening ++ working ++ closing)) (isAfter : call.hook.isAfter = true) :
    call ∈ calls closing := by
  rw [frame.calls_eq] at called
  rcases List.mem_append.mp called with early | late
  · rw [frame.before call early] at isAfter
    cases isAfter
  · exact late

/-- A hook after statements is called only if every statement of the frame succeeded. -/
theorem succeeded (frame : IsFrame opening working closing) {call : HookCall}
    (called : call ∈ calls (opening ++ working ++ closing)) (isAfter : call.hook.isAfter = true) :
    Succeeded (opening ++ working ++ closing) := by
  have late := frame.mem_closing called isAfter
  exact succeeded_append.mpr ⟨succeeded_append.mpr ⟨succeeded_of_silent frame.opens,
    frame.succeeds (List.ne_nil_of_mem late)⟩, succeeded_of_silent frame.closes⟩

end IsFrame

/-! ### Plain operations -/

namespace Operation

variable {Held Result First Second : Type}

/-- An operation is plain if it calls no hook and succeeds only where each of its statements
does. -/
def IsPlain (operation : Operation Held Result) : Prop :=
  ∀ held exchanges outcome after, Runs operation held exchanges outcome after →
    calls exchanges = [] ∧ ∀ result, outcome = .ok result → Succeeded exchanges

/-- What a plain operation does not call it does not heed. -/
theorem IsPlain.heedless {operation : Operation Held Result} (plain : IsPlain operation) :
    Heedless operation :=
  fun held => Program.alike_self fun exchanges result runs =>
    (plain held exchanges result.1 result.2 runs).1

theorem isPlain_ofExcept (given : Except Error Result) :
    IsPlain (ofExcept given : Operation Held Result) := by
  intro held exchanges outcome after runs
  obtain ⟨rfl, -, -⟩ := runs_ofExcept.mp runs
  exact ⟨rfl, fun _ _ => List.forall_mem_nil _⟩

theorem isPlain_pure (result : Result) : IsPlain (Pure.pure result : Operation Held Result) :=
  isPlain_ofExcept (.ok result)

theorem isPlain_fail (error : Error) : IsPlain (fail error : Operation Held Result) :=
  isPlain_ofExcept (.error error)

theorem isPlain_report (level : LogLevel) (message : String) :
    IsPlain (report level message : Operation Held Unit) := by
  intro held exchanges outcome after runs
  obtain ⟨rfl, -, -⟩ := runs_report.mp runs
  exact ⟨rfl, fun _ _ => List.forall_mem_singleton.mpr rfl⟩

theorem isPlain_execute (statement : Statement) :
    IsPlain (execute statement : Operation Held Outcome) := by
  intro held exchanges outcome after runs
  obtain ⟨rfl, -⟩ := runs_execute.mp runs
  refine ⟨rfl, fun result succeeds => List.forall_mem_singleton.mpr ?_⟩
  rw [succeeds]
  rfl

theorem isPlain_fetchFirst (statement : Statement) :
    IsPlain (fetchFirst statement : Operation Held (Option Row)) := by
  intro held exchanges outcome after runs
  obtain ⟨rfl, -⟩ := runs_fetchFirst.mp runs
  refine ⟨rfl, fun result succeeds => List.forall_mem_singleton.mpr ?_⟩
  rw [succeeds]
  rfl

theorem isPlain_fetchAll (statement : Statement) :
    IsPlain (fetchAll statement : Operation Held (List Row)) := by
  intro held exchanges outcome after runs
  obtain ⟨rfl, -⟩ := runs_fetchAll.mp runs
  refine ⟨rfl, fun result succeeds => List.forall_mem_singleton.mpr ?_⟩
  rw [succeeds]
  rfl

theorem IsPlain.during {operation : Operation Held Result} (plain : IsPlain operation)
    (name record : String) : IsPlain (operation.during name record) := by
  intro held exchanges outcome after runs
  obtain ⟨answer, ran, rfl⟩ := runs_during.mp runs
  obtain ⟨callsNone, succeeds⟩ := plain _ _ _ _ ran
  exact ⟨callsNone, fun result equal => succeeds result (Outcome.mapError_eq_ok.mp equal)⟩

theorem IsPlain.bind {operation : Operation Held First} {next : First → Operation Held Second}
    (plain : IsPlain operation) (follow : ∀ result, IsPlain (next result)) :
    IsPlain (operation >>= next) := by
  intro held exchanges outcome after runs
  rcases runs_bind.mp runs with ⟨error, failed, rfl⟩ |
    ⟨opening, result, middle, closing, rfl, opened, closed⟩
  · exact ⟨(plain _ _ _ _ failed).1, nofun⟩
  · obtain ⟨openingNone, opens⟩ := plain _ _ _ _ opened
    obtain ⟨closingNone, closes⟩ := follow result _ _ _ _ closed
    rw [calls_append, openingNone, closingNone]
    exact ⟨rfl, fun last equal => succeeded_append.mpr ⟨opens result rfl, closes last equal⟩⟩

theorem isPlain_held_bind {next : Held → Operation Held Result}
    (plain : ∀ held, IsPlain (next held)) : IsPlain (Operation.held >>= next) :=
  fun held _ _ _ runs => plain held _ _ _ _ (runs_held_bind.mp runs)

theorem isPlain_hold (value : Held) : IsPlain (hold value) :=
  fun _ _ _ _ runs => isPlain_pure () _ _ _ _ runs

end Operation

namespace Query

variable {query : Query} {model : Model}

theorem isPlain_overwrite (type : RecordType) (field : Field) (value : Value) :
    IsPlain (overwrite type field value) :=
  isPlain_held_bind fun _ => (isPlain_ofExcept _).bind fun saved => isPlain_hold saved

theorem isPlain_assignments (entries : List (String × Value)) :
    IsPlain (assignments model entries) := by
  induction entries with
  | nil => exact isPlain_pure []
  | cons entry rest inductionHypothesis =>
    obtain ⟨name, value⟩ := entry
    unfold assignments
    split
    · exact isPlain_fail _
    · split
      · exact (isPlain_report _ _).bind fun _ => inductionHypothesis
      · exact (isPlain_ofExcept _).bind fun operand =>
          inductionHypothesis.bind fun found => isPlain_pure _

theorem isPlain_writeAssignments (type : RecordType) (assigned : List Assignment) :
    IsPlain (writeAssignments type assigned) := by
  induction assigned with
  | nil => exact isPlain_pure ()
  | cons assignment rest inductionHypothesis =>
    exact (isPlain_overwrite type assignment.1 assignment.2).bind fun _ => inductionHypothesis

theorem isPlain_insert (statement : Statement) (asked : Option Field) :
    IsPlain (insert model statement asked) := by
  cases asked with
  | none => exact (isPlain_execute statement).during "create" model.name
  | some key =>
    refine ((isPlain_fetchFirst statement).during "create" model.name).bind fun found => ?_
    cases found with
    | none => exact isPlain_pure _
    | some row => exact (isPlain_ofExcept _).bind fun identifier => isPlain_pure _

theorem isPlain_writeKey (inserted : Record) (outcome : Outcome) :
    IsPlain (query.writeKey model inserted outcome) := by
  unfold writeKey
  split
  · split
    · exact (isPlain_ofExcept _).bind fun value => isPlain_overwrite _ _ value
    · exact isPlain_pure ()
  · exact isPlain_pure ()

theorem isPlain_copyCells (type : RecordType) (row : Row) (column : Nat) (fields : List Field) :
    IsPlain (copyCells type row column fields) := by
  induction fields generalizing column with
  | nil => exact isPlain_pure ()
  | cons field rest inductionHypothesis =>
    exact (isPlain_ofExcept _).bind fun value =>
      (isPlain_overwrite type field value).bind fun _ => inductionHypothesis (column + 1)

theorem isPlain_refresh : IsPlain (query.refresh model) := by
  refine isPlain_held_bind fun record => ?_
  split
  · exact isPlain_report _ _
  · refine (isPlain_ofExcept _).bind fun statement =>
      ((isPlain_fetchFirst statement).during "create" model.name).bind fun found => ?_
    cases found with
    | none => exact isPlain_pure ()
    | some row => exact isPlain_copyCells query.type row 0 model.fields

theorem isPlain_count {Held : Type} : IsPlain (query.count : Operation Held Int64) := by
  refine (isPlain_ofExcept _).bind fun model => (isPlain_ofExcept _).bind fun statement =>
    ((isPlain_fetchFirst statement).during "count" model.name).bind fun found => ?_
  cases found with
  | none => exact isPlain_pure 0
  | some row => exact isPlain_ofExcept _

end Query

end RecordMapper
