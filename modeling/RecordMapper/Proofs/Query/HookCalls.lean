/-
This file says which hooks are called in a transcript. An operation that saves a record opens with
one hook and ends with another, and each is called once if it runs; an operation that loads records
calls a hook once for each row, in the order of the rows. In both a hook is called only if it is
declared and answered to, in order with the statements, and a refusal before them is the end.
-/

import RecordMapper.Proofs.Outcome
import RecordMapper.Proofs.Query.Framing

namespace RecordMapper

open Operation

/-! ### The discipline -/

/-- What holds of the calls of any transcript, given the error with which it ends. -/
structure Disciplined (model : Model) (type : RecordType) (exchanges : List Exchange)
    (error? : Option Error) : Prop where
  /-- A hook is called if the model declares it and the type answers to it. -/
  declared : ∀ call ∈ calls exchanges,
    call.hook ∈ model.hooks ∧ call.hook ∈ type.answers ∧ call.type = type
  inOrder : exchanges.Pairwise InOrder
  /-- Hooks after statements are called once there were some, and all succeeded. -/
  succeeded : ∀ call ∈ calls exchanges, call.hook.isAfter = true →
    statements exchanges ≠ [] ∧ Succeeded exchanges
  /-- A hook before statements that fails is what the operation fails with, before it sends any. -/
  refused : ∀ call answer error, .called call answer ∈ exchanges → call.hook.isAfter = false →
    answer.outcome = .error error → error? = some error ∧ statements exchanges = []

/-- Of the given hooks those that run are called in turn, all of them if nothing fails. -/
def CallsInTurn (model : Model) (type : RecordType) (exchanges : List Exchange)
    (error? : Option Error) (hooks : List Hook) : Prop :=
  (calls exchanges).map HookCall.hook <+: hooks.filter (Hook.runsOn · model type) ∧
    (error? = none →
      (calls exchanges).map HookCall.hook = hooks.filter (Hook.runsOn · model type))

/-- The records that rows make, as far as the first row that makes none. -/
def RecordType.recordsOf (type : RecordType) (model : Model) : List Row → List Record
  | [] => []
  | row :: rest =>
    match type.ofRow model row with
    | .ok record => record :: type.recordsOf model rest
    | .error _ => []

/-- The calls that are due for rows: one for each record that they make, if the hook runs. -/
def RecordType.loadCalls (type : RecordType) (model : Model) (rows : List Row) : List HookCall :=
  if Hook.afterFind.runsOn model type then
    (type.recordsOf model rows).map fun record => ⟨.afterFind, type, record, none⟩
  else []

/-- The row that an exchange delivers where one was asked for. -/
def Exchange.firstRow : Exchange → List Row
  | .fetchedFirst _ (.ok (some row)) => [row]
  | _ => []

/-- The rows that an exchange delivers where all were asked for. -/
def Exchange.allRows : Exchange → List Row
  | .fetchedAll _ (.ok rows) => rows
  | _ => []

/-! ### Frames keep the discipline -/

theorem Hook.runsOn_eq_true {hook : Hook} {model : Model} {type : RecordType} :
    hook.runsOn model type = true ↔ hook ∈ model.hooks ∧ hook ∈ type.answers := by
  rw [runsOn, Bool.and_eq_true, List.contains_iff_mem, List.contains_iff_mem]

/-- A frame keeps the discipline if its hooks run, a refusal in its opening ends it and statements
come before its closing. -/
theorem IsFrame.disciplined {model : Model} {type : RecordType} {error? : Option Error}
    {opening working closing : List Exchange} (frame : IsFrame opening working closing)
    (enabled : ∀ call ∈ calls opening ++ calls closing,
      call.hook.runsOn model type = true ∧ call.type = type)
    (refuses : ∀ call answer error, .called call answer ∈ opening →
      answer.outcome = .error error → error? = some error ∧ statements working = [])
    (sends : calls closing ≠ [] → statements working ≠ []) :
    Disciplined model type (opening ++ working ++ closing) error? := by
  refine ⟨fun call listed => ?_, frame.inOrder, fun call listed isAfter => ⟨?_, ?_⟩, ?_⟩
  · rw [frame.calls_eq] at listed
    obtain ⟨runs, typed⟩ := enabled call listed
    obtain ⟨declares, answers⟩ := Hook.runsOn_eq_true.mp runs
    exact ⟨declares, answers, typed⟩
  · rw [frame.statements_eq]
    exact sends (List.ne_nil_of_mem (frame.mem_closing listed isAfter))
  · exact frame.succeeded listed isAfter
  · intro call answer error listed isBefore answered
    rw [frame.statements_eq]
    rcases List.mem_append.mp listed with front | last
    · rcases List.mem_append.mp front with first | inner
      · exact refuses call answer error first answered
      · have uncalled := List.filterMap_eq_nil_iff.mp frame.works _ inner
        cases uncalled
    · have isAfter := frame.after call (List.mem_filterMap.mpr ⟨_, last, rfl⟩)
      rw [isBefore] at isAfter
      cases isAfter

/-! ### Saving -/

/-- Where nothing at all happens before an error nothing is out of turn. -/
theorem disciplined_of_nothing (model : Model) (type : RecordType) (error : Error)
    (hooks : List Hook) :
    Disciplined model type [] (some error) ∧ CallsInTurn model type [] (some error) hooks :=
  ⟨⟨List.forall_mem_nil _, .nil, List.forall_mem_nil _, fun _ _ _ listed => by cases listed⟩,
    List.nil_prefix, nofun⟩

namespace Hook

variable {hook : Hook} {model : Model} {type : RecordType} {exchanges : List Exchange}

/-- A hook before statements either runs, and its refusal is the operation's, or nothing happens. -/
def Opens (hook : Hook) (model : Model) (type : RecordType) (exchanges : List Exchange)
    (refusal : Option Error) : Prop :=
  (hook.runsOn model type = true ∧ ∃ record changes answer,
    exchanges = [.called ⟨hook, type, record, changes⟩ answer] ∧
      refusal = Outcome.errorOf answer.outcome) ∨
  (hook.runsOn model type = false ∧ exchanges = [] ∧ refusal = none)

theorem opens_before {record after : Record} {outcome : Except Error Unit}
    (runs : Runs (hook.before model type) record exchanges outcome after) :
    hook.Opens model type exchanges (Outcome.errorOf outcome) := by
  rcases runs_before.mp runs with ⟨enabled, answer, rfl, rfl, -⟩ | ⟨idle, rfl, rfl, -⟩
  · exact .inl ⟨enabled, record, none, answer, rfl, rfl⟩
  · exact .inr ⟨idle, rfl, rfl⟩

theorem opens_beforeChanges {changes : Changes} {record after : Record}
    {outcome : Except Error Changes}
    (runs : Runs (hook.beforeChanges model type changes) record exchanges outcome after) :
    hook.Opens model type exchanges (Outcome.errorOf outcome) := by
  rcases runs_beforeChanges.mp runs with ⟨enabled, answer, rfl, rfl, -⟩ | ⟨idle, rfl, rfl, -⟩
  · refine .inl ⟨enabled, record, some changes, answer, rfl, ?_⟩
    cases answer.outcome <;> rfl
  · exact .inr ⟨idle, rfl, rfl⟩

/-- Reporting a refusal neither fails nor calls anything. -/
theorem runs_reportFailure {Held : Type} {held left : Held} {verdict outcome : Except Error Unit}
    (runs : Runs (hook.reportFailure model verdict) held exchanges outcome left) :
    outcome = .ok () ∧ left = held ∧ calls exchanges = [] := by
  cases verdict with
  | ok done =>
    obtain ⟨rfl, rfl, rfl⟩ := runs_pure.mp runs
    exact ⟨rfl, rfl, rfl⟩
  | error refusal =>
    obtain ⟨rfl, rfl, rfl⟩ := runs_report.mp runs
    exact ⟨rfl, rfl, rfl⟩

/-- The calls that are due of a hook: one if it runs. -/
def due (hook : Hook) (model : Model) (type : RecordType) (record : Record)
    (changes : Option Changes) : List HookCall :=
  if hook.runsOn model type then [⟨hook, type, record, changes⟩] else []

/-- A hook after statements is called if it runs, and it fails nothing. -/
theorem runs_afterOn {Held : Type} {held left : Held} {changes : Option Changes} {record : Record}
    {outcome : Except Error Record}
    (runs : Runs (hook.afterOn model type changes record) held exchanges outcome left) :
    outcome = .ok (recordLeft hook record exchanges) ∧
      calls exchanges = hook.due model type record changes := by
  unfold due
  unfold afterOn at runs
  split at runs
  · rename_i enabled
    rw [if_pos enabled]
    rcases runs_bind.mp runs with ⟨error, failed, -⟩ |
      ⟨opening, answer, middle, closing, rfl, called, later⟩
    · obtain ⟨answer, -, equal, -⟩ := runs_call.mp failed
      cases equal
    obtain ⟨given, rfl, equal, rfl⟩ := runs_call.mp called
    cases equal
    rcases runs_bind.mp later with ⟨error, failed, -⟩ |
      ⟨reporting, _, middle, finishing, rfl, reported, finished⟩
    · cases (runs_reportFailure failed).1
    obtain ⟨rfl, rfl, -⟩ := runs_pure.mp finished
    rw [calls_append, calls_append, (runs_reportFailure reported).2.2]
    refine ⟨?_, rfl⟩
    simp [recordLeft, openingReturn?, Exchange.hookReturn?]
  · rename_i idle
    rw [if_neg idle]
    obtain ⟨rfl, rfl, -⟩ := runs_pure.mp runs
    exact ⟨rfl, rfl⟩

/-- The record is left as a hook after statements answers it, and a hook that does not run leaves it
as it is. -/
theorem runs_after {changes : Option Changes} {record left : Record} {outcome : Except Error Unit}
    (runs : Runs (hook.after model type changes) record exchanges outcome left) :
    outcome = .ok () ∧ left = recordLeft hook record exchanges ∧
      calls exchanges = hook.due model type record changes := by
  rcases runs_bind.mp (runs_held_bind.mp runs) with ⟨error, failed, -⟩ |
    ⟨opening, saved, middle, closing, rfl, reached, held⟩
  · cases (runs_afterOn failed).1
  · obtain ⟨equal, called⟩ := runs_afterOn reached
    obtain ⟨rfl, rfl, rfl⟩ := runs_pure.mp held
    rw [List.append_nil]
    exact ⟨rfl, Except.ok.inj equal, called⟩

/-- An operation works without hooks and, if that succeeds, calls a hook in the end. -/
def Ends {Result : Type} (hook : Hook) (model : Model) (type : RecordType)
    (operation : Operation Record Result) : Prop :=
  ∀ held exchanges outcome left, Runs operation held exchanges outcome left →
    ∃ working closing, exchanges = working ++ closing ∧ calls working = [] ∧
      statements closing = [] ∧ (∀ error, outcome = .error error → closing = []) ∧
      ∀ result, outcome = .ok result → Succeeded working ∧
        ∃ record changes, calls closing = hook.due model type record changes

theorem ends_after {Result : Type} (changes : Option Changes) (result : Result) :
    hook.Ends model type (hook.after model type changes >>= fun _ => Pure.pure result) := by
  intro held exchanges outcome left runs
  rcases runs_bind.mp runs with ⟨error, failed, -⟩ |
    ⟨opening, _, middle, closing, rfl, reached, finished⟩
  · cases (runs_after failed).1
  obtain ⟨rfl, rfl, -⟩ := runs_pure.mp finished
  rw [List.append_nil]
  exact ⟨[], opening, rfl, rfl, isSilent_after changes _ _ _ _ reached, nofun,
    fun _ _ => ⟨List.forall_mem_nil _, held, changes, (runs_after reached).2.2⟩⟩

/-- What a plain operation goes before ends as it did. -/
theorem Ends.of_plain {First Second : Type} {operation : Operation Record First}
    {next : First → Operation Record Second} (plain : IsPlain operation)
    (ends : ∀ result, hook.Ends model type (next result)) :
    hook.Ends model type (operation >>= next) := by
  intro held exchanges outcome left runs
  rcases runs_bind.mp runs with ⟨error, failed, rfl⟩ |
    ⟨opening, result, middle, later, rfl, opened, followed⟩
  · exact ⟨exchanges, [], (List.append_nil _).symm, (plain _ _ _ _ failed).1, rfl,
      fun _ _ => rfl, nofun⟩
  · obtain ⟨callsNone, succeeds⟩ := plain _ _ _ _ opened
    obtain ⟨working, closing, rfl, works, silent, fails, called⟩ := ends result _ _ _ _ followed
    refine ⟨opening ++ working, closing, (List.append_assoc _ _ _).symm, ?_, silent, fails,
      fun last equal => ?_⟩
    · rw [calls_append, callsNone, works]
      rfl
    · obtain ⟨worked, record, changes, calls⟩ := called last equal
      exact ⟨succeeded_append.mpr ⟨succeeds result rfl, worked⟩, record, changes, calls⟩

variable {before after : Hook} {record : Record} {changes : Option Changes}

theorem of_mem_due {call : HookCall} (listed : call ∈ hook.due model type record changes) :
    hook.runsOn model type = true ∧ call.hook = hook ∧ call.type = type := by
  unfold due at listed
  split at listed
  · rename_i enabled
    cases List.mem_singleton.mp listed
    exact ⟨enabled, rfl, rfl⟩
  · cases listed

theorem map_hook_due :
    (hook.due model type record changes).map HookCall.hook =
      [hook].filter (Hook.runsOn · model type) := by
  unfold due
  cases runs : hook.runsOn model type <;> simp [runs]

/-- A hook before statements is called if it runs, and sends nothing. -/
theorem Opens.calls_eq {refusal : Option Error}
    (opens : before.Opens model type exchanges refusal) :
    statements exchanges = [] ∧
      ∃ record changes, calls exchanges = before.due model type record changes := by
  rcases opens with ⟨enabled, record, changes, given, rfl, -⟩ | ⟨idle, rfl, -⟩
  · exact ⟨rfl, record, changes, (if_pos enabled).symm⟩
  · refine ⟨rfl, [], none, ?_⟩
    rw [due, idle]
    rfl

/-- What a hook before statements answers is whether it refuses. -/
theorem Opens.refusal_eq {refusal : Option Error}
    (opens : before.Opens model type exchanges refusal) {call : HookCall} {answer : HookReturn}
    (listed : .called call answer ∈ exchanges) :
    refusal = Outcome.errorOf answer.outcome := by
  rcases opens with ⟨-, _, _, given, rfl, refuses⟩ | ⟨-, rfl, -⟩
  · cases List.mem_singleton.mp listed
    exact refuses
  · cases listed

/-- Of two hooks those that run are the first, if it runs, and then the second, if that runs. -/
theorem filter_runsOn_pair : [before, after].filter (Hook.runsOn · model type) =
    [before].filter (Hook.runsOn · model type) ++ [after].filter (Hook.runsOn · model type) :=
  List.filter_append [before] [after]

/-- Where the hook before statements refuses its call is all that happens. -/
theorem disciplined_of_refusal (isBefore : before.isAfter = false) {error : Error}
    (opens : before.Opens model type exchanges (some error)) :
    Disciplined model type exchanges (some error) ∧
      CallsInTurn model type exchanges (some error) [before, after] := by
  obtain ⟨silent, _, _, called⟩ := opens.calls_eq
  have frame : IsFrame exchanges [] [] :=
    { opens := silent
      before := fun call listed => by rw [(of_mem_due (called ▸ listed)).2.1, isBefore]
      works := rfl
      closes := rfl
      after := List.forall_mem_nil _
      succeeds := fun called => absurd rfl called }
  refine ⟨?_, ?_, nofun⟩
  · have disciplined : Disciplined model type (exchanges ++ [] ++ []) (some error) :=
      frame.disciplined (fun call listed => ?_) (fun call answer fault listed answered => ?_)
        (fun called => absurd rfl called)
    · rwa [List.append_nil, List.append_nil] at disciplined
    · rw [calls_nil, List.append_nil, called] at listed
      obtain ⟨enabled, rfl, typed⟩ := of_mem_due listed
      exact ⟨enabled, typed⟩
    · have refusal := opens.refusal_eq listed
      rw [answered] at refusal
      exact ⟨refusal, rfl⟩
  · rw [called, map_hook_due, filter_runsOn_pair]
    exact List.prefix_append _ _

/-- What opens with a hook before statements and ends with one after them keeps the discipline. -/
theorem disciplined_of_saving {First Result : Type} {opener : Operation Record First}
    {next : First → Operation Record Result} (isBefore : before.isAfter = false)
    (isAfter : after.isAfter = true)
    (opens : ∀ held exchanges outcome left, Runs opener held exchanges outcome left →
      before.Opens model type exchanges (Outcome.errorOf outcome))
    (ends : ∀ result, after.Ends model type (next result)) {held left : Record}
    {outcome : Except Error Result} (runs : Runs (opener >>= next) held exchanges outcome left)
    (sends : ∀ result, outcome = .ok result → statements exchanges ≠ []) :
    Disciplined model type exchanges (Outcome.errorOf outcome) ∧
      CallsInTurn model type exchanges (Outcome.errorOf outcome) [before, after] := by
  rcases runs_bind.mp runs with ⟨error, failed, rfl⟩ |
    ⟨opening, result, middle, later, rfl, opened, followed⟩
  · exact disciplined_of_refusal isBefore (opens _ _ _ _ failed)
  have opens := opens _ _ _ _ opened
  obtain ⟨openingSilent, _, _, openingCalls⟩ := opens.calls_eq
  obtain ⟨working, closing, rfl, works, closingSilent, fails, succeeds⟩ :=
    ends result _ _ _ _ followed
  have late : ∀ call ∈ calls closing, after.runsOn model type = true ∧ call.hook = after ∧
      call.type = type ∧ Succeeded working ∧ ∃ result, outcome = .ok result := by
    intro call listed
    cases outcome with
    | error error =>
      rw [fails error rfl] at listed
      cases listed
    | ok last =>
      obtain ⟨succeeded, _, _, closingCalls⟩ := succeeds last rfl
      obtain ⟨enabled, same, typed⟩ := of_mem_due (closingCalls ▸ listed)
      exact ⟨enabled, same, typed, succeeded, last, rfl⟩
  have frame : IsFrame opening working closing :=
    { opens := openingSilent
      before := fun call listed => by rw [(of_mem_due (openingCalls ▸ listed)).2.1, isBefore]
      works := works
      closes := closingSilent
      after := fun call listed => by rw [(late call listed).2.1, isAfter]
      succeeds := fun called => by
        obtain ⟨call, listed⟩ := List.exists_mem_of_ne_nil _ called
        exact (late call listed).2.2.2.1 }
  rw [← List.append_assoc] at sends ⊢
  refine ⟨frame.disciplined (fun call listed => ?_) (fun call answer error listed answered => ?_)
    fun called => ?_, ?_⟩
  · rcases List.mem_append.mp listed with first | last
    · obtain ⟨enabled, rfl, typed⟩ := of_mem_due (openingCalls ▸ first)
      exact ⟨enabled, typed⟩
    · obtain ⟨enabled, rfl, typed, -⟩ := late call last
      exact ⟨enabled, typed⟩
  · have accepted := opens.refusal_eq listed
    rw [answered] at accepted
    cases accepted
  · obtain ⟨call, listed⟩ := List.exists_mem_of_ne_nil _ called
    obtain ⟨-, -, -, -, last, ends⟩ := late call listed
    rw [← frame.statements_eq]
    exact sends last ends
  · rw [CallsInTurn, frame.calls_eq, List.map_append, openingCalls, map_hook_due,
      filter_runsOn_pair]
    cases outcome with
    | error error =>
      rw [fails error rfl, calls_nil, List.map_nil, List.append_nil]
      exact ⟨List.prefix_append _ _, nofun⟩
    | ok last =>
      obtain ⟨-, _, _, closingCalls⟩ := succeeds last rfl
      rw [closingCalls, map_hook_due]
      exact ⟨List.prefix_refl _, fun _ => rfl⟩

end Hook

/-! ### Loading -/

namespace Query

variable {query : Query} {model : Model} {type : RecordType} {Held : Type} {held left : Held}
  {exchanges : List Exchange}

theorem loadCalls_nil : type.loadCalls model [] = [] := by
  unfold RecordType.loadCalls
  split <;> rfl

/-- A row that makes a record is due a call for it, and the other rows are due theirs. -/
theorem loadCalls_cons {row : Row} {rest : List Row} {record : Record}
    (made : type.ofRow model row = .ok record) :
    type.loadCalls model (row :: rest) =
      Hook.afterFind.due model type record none ++ type.loadCalls model rest := by
  unfold RecordType.loadCalls Hook.due
  rw [RecordType.recordsOf, made]
  split <;> rfl

/-- From a row on that makes no record no call is due. -/
theorem loadCalls_of_error {row : Row} {rest : List Row} {error : Error}
    (refused : type.ofRow model row = .error error) :
    type.loadCalls model (row :: rest) = [] := by
  unfold RecordType.loadCalls
  rw [RecordType.recordsOf, refused]
  split <;> rfl

/-- Loading a row fails where the row makes no record, and else calls what is due for it. -/
theorem runs_load {row : Row} {outcome : Except Error Record}
    (runs : Runs (query.load model row) held exchanges outcome left) :
    (∃ error, query.type.ofRow model row = .error error ∧ outcome = .error error ∧
      calls exchanges = []) ∨
    ∃ record saved, query.type.ofRow model row = .ok record ∧ outcome = .ok saved ∧
      calls exchanges = Hook.afterFind.due model query.type record none := by
  rcases runs_ofExcept_bind.mp runs with ⟨error, refused, rfl, rfl, -⟩ | ⟨record, made, called⟩
  · exact .inl ⟨error, refused, rfl, rfl⟩
  · obtain ⟨rfl, calls⟩ := Hook.runs_afterOn called
    exact .inr ⟨record, _, made, rfl, calls⟩

theorem calls_of_load {row : Row} {outcome : Except Error Record}
    (runs : Runs (query.load model row) held exchanges outcome left) :
    calls exchanges = query.type.loadCalls model [row] := by
  rcases runs_load runs with ⟨error, refused, -, uncalled⟩ | ⟨record, saved, made, -, called⟩
  · rw [uncalled, loadCalls_of_error refused]
  · rw [called, loadCalls_cons made, loadCalls_nil, List.append_nil]

/-- Loading rows in turn calls what is due for them. -/
theorem calls_of_loadEach {rows : List Row} {loaded records : List Record}
    {outcome : Except Error Unit}
    (runs : Runs (query.loadEach model rows) loaded exchanges outcome records) :
    calls exchanges = query.type.loadCalls model rows := by
  induction rows generalizing loaded exchanges with
  | nil =>
    obtain ⟨rfl, -⟩ := runs_pure.mp runs
    exact loadCalls_nil.symm
  | cons row rest inductionHypothesis =>
    rcases runs_bind.mp runs with ⟨error, failed, -⟩ |
      ⟨opening, record, middle, closing, rfl, first, others⟩
    · rcases runs_load failed with ⟨_, refused, -, uncalled⟩ | ⟨_, saved, -, equal, -⟩
      · rw [uncalled, loadCalls_of_error refused]
      · cases equal
    · rcases runs_load first with ⟨_, -, equal, -⟩ | ⟨given, saved, made, -, called⟩
      · cases equal
      · have later : Runs (query.loadEach model rest) (middle ++ [record]) closing outcome
            records := others
        rw [calls_append, called, inductionHypothesis later, loadCalls_cons made]

/-- A transcript first sends statements without calling hooks and then sends none, but calls what is
due for the rows that it was given. -/
def Loads (type : RecordType) (model : Model) (rowsOf : Exchange → List Row)
    (exchanges : List Exchange) : Prop :=
  ∃ working closing, exchanges = working ++ closing ∧ calls working = [] ∧
    statements closing = [] ∧ (calls closing ≠ [] → Succeeded working) ∧
    calls closing = type.loadCalls model (working.flatMap rowsOf)

variable {rowsOf : Exchange → List Row}

/-- A transcript without calls and without rows has none that are due. -/
theorem loads_of_uncalled (uncalled : calls exchanges = [])
    (empty : ∀ exchange ∈ exchanges, rowsOf exchange = []) : Loads type model rowsOf exchanges := by
  refine ⟨exchanges, [], (List.append_nil _).symm, uncalled, rfl, fun called => absurd rfl called,
    ?_⟩
  rw [List.flatMap_eq_nil_iff.mpr empty, loadCalls_nil]
  rfl

/-- What succeeds without calls and without rows may come before. -/
theorem Loads.append {opening : List Exchange} (uncalled : calls opening = [])
    (empty : ∀ exchange ∈ opening, rowsOf exchange = []) (succeeded : Succeeded opening)
    (loads : Loads type model rowsOf exchanges) :
    Loads type model rowsOf (opening ++ exchanges) := by
  obtain ⟨working, closing, rfl, works, silent, succeeds, called⟩ := loads
  refine ⟨opening ++ working, closing, (List.append_assoc _ _ _).symm, ?_, silent,
    fun calling => succeeded_append.mpr ⟨succeeded, succeeds calling⟩, ?_⟩
  · rw [calls_append, uncalled, works]
    rfl
  · rw [List.flatMap_append, List.flatMap_eq_nil_iff.mpr empty, List.nil_append, called]

/-- Loading keeps the discipline, where rows come with the answers to statements only. -/
theorem Loads.disciplined (loads : Loads type model rowsOf exchanges)
    (ofStatement : ∀ exchange, exchange.statement? = none → rowsOf exchange = [])
    (error? : Option Error) :
    Disciplined model type exchanges error? ∧
      calls exchanges = type.loadCalls model (exchanges.flatMap rowsOf) := by
  obtain ⟨working, closing, rfl, works, silent, succeeds, called⟩ := loads
  have enabled : ∀ call ∈ calls closing, Hook.afterFind.runsOn model type = true ∧
      call.hook = .afterFind ∧ call.type = type := by
    intro call listed
    rw [called, RecordType.loadCalls] at listed
    split at listed
    · rename_i enabled
      obtain ⟨record, -, rfl⟩ := List.mem_map.mp listed
      exact ⟨enabled, rfl, rfl⟩
    · cases listed
  have frame : IsFrame [] working closing :=
    { opens := rfl
      before := List.forall_mem_nil _
      works := works
      closes := silent
      after := fun call listed => by rw [(enabled call listed).2.1, Hook.isAfter]
      succeeds := succeeds }
  refine ⟨?_, ?_⟩
  · refine frame.disciplined (fun call listed => ?_) (fun _ _ _ listed => by cases listed)
      fun calling => ?_
    · obtain ⟨runs, same, typed⟩ := enabled call listed
      exact ⟨same ▸ runs, typed⟩
    · -- A call is due for a row only, and a row comes with a statement.
      intro unsent
      have empty : ∀ exchange ∈ working, rowsOf exchange = [] := fun exchange member =>
        ofStatement exchange (List.filterMap_eq_nil_iff.mp unsent exchange member)
      rw [called, List.flatMap_eq_nil_iff.mpr empty, loadCalls_nil] at calling
      exact calling rfl
  · have empty : ∀ exchange ∈ closing, rowsOf exchange = [] := fun exchange member =>
      ofStatement exchange (List.filterMap_eq_nil_iff.mp silent exchange member)
    rw [calls_append, works, called, List.flatMap_append, List.flatMap_eq_nil_iff.mpr empty,
      List.append_nil]
    rfl

/-- Looking up one row loads it. -/
theorem loads_of_loadOne {name : String} {statement : Statement} {outcome : Except Error Record}
    (runs : Runs (query.loadOne model name statement) held exchanges outcome left) :
    Loads query.type model Exchange.firstRow exchanges := by
  rcases runs_bind.mp runs with ⟨error, failed, rfl⟩ |
    ⟨opening, found, middle, closing, rfl, fetched, loaded⟩
  · obtain ⟨answer, sent, equal⟩ := runs_during.mp failed
    obtain ⟨rfl, -⟩ := runs_fetchFirst.mp sent
    cases answer with
    | ok found => cases equal
    | error fault => exact loads_of_uncalled rfl (List.forall_mem_singleton.mpr rfl)
  · obtain ⟨answer, sent, equal⟩ := runs_during.mp fetched
    obtain ⟨rfl, -⟩ := runs_fetchFirst.mp sent
    obtain rfl := Outcome.mapError_eq_ok.mp equal.symm
    have succeeded : Succeeded [.fetchedFirst statement (.ok found)] :=
      List.forall_mem_singleton.mpr rfl
    cases found with
    | none =>
      obtain ⟨rfl, -⟩ := runs_fail.mp loaded
      exact loads_of_uncalled rfl (List.forall_mem_singleton.mpr rfl)
    | some row =>
      exact ⟨_, closing, rfl, rfl, isSilent_load row _ _ _ _ loaded, fun _ => succeeded,
        calls_of_load loaded⟩

/-- A search loads the rows that it is given. -/
theorem loads_of_find {records loaded : List Record} {outcome : Except Error Unit}
    (prepared : query.prepare = .ok model)
    (runs : Runs query.find records exchanges outcome loaded) :
    Loads query.type model Exchange.allRows exchanges := by
  rcases runs_ofExcept_bind.mp (runs_hold_bind.mp runs) with
    ⟨error, -, rfl, -⟩ | ⟨_, found, searched⟩
  · exact loads_of_uncalled rfl (List.forall_mem_nil _)
  cases prepared.symm.trans found
  rcases runs_ofExcept_bind.mp searched with ⟨error, -, rfl, -⟩ | ⟨statement, built, sent⟩
  · exact loads_of_uncalled rfl (List.forall_mem_nil _)
  rcases runs_bind.mp sent with ⟨error, failed, rfl⟩ |
    ⟨opening, rows, middle, closing, rfl, fetched, loaded⟩
  · obtain ⟨answer, sent, equal⟩ := runs_during.mp failed
    obtain ⟨rfl, -⟩ := runs_fetchAll.mp sent
    cases answer with
    | ok found => cases equal
    | error fault => exact loads_of_uncalled rfl (List.forall_mem_singleton.mpr rfl)
  · obtain ⟨answer, sent, equal⟩ := runs_during.mp fetched
    obtain ⟨rfl, -⟩ := runs_fetchAll.mp sent
    obtain rfl := Outcome.mapError_eq_ok.mp equal.symm
    have succeeded : Succeeded [.fetchedAll statement (.ok rows)] :=
      List.forall_mem_singleton.mpr rfl
    refine ⟨_, closing, rfl, rfl, isSilent_loadEach rows _ _ _ _ loaded, fun _ => succeeded, ?_⟩
    rw [calls_of_loadEach loaded, List.flatMap_singleton]
    rfl

theorem loads_of_scan (query : Query) {outcome : Except Error (List Record)}
    (prepared : query.prepare = .ok model)
    (runs : Runs query.scan held exchanges outcome left) :
    Loads query.type model Exchange.allRows exchanges := by
  obtain ⟨found, records, searched, -⟩ := find_of_runs_scan runs
  exact loads_of_find prepared searched

/-- A count is given no rows to load. -/
theorem allRows_of_count {outcome : Except Error Int64}
    (runs : Runs query.count held exchanges outcome left) :
    ∀ exchange ∈ exchanges, exchange.allRows = [] := by
  rcases runs_ofExcept_bind.mp runs with ⟨error, -, rfl, -⟩ | ⟨model, prepared, counted⟩
  · exact List.forall_mem_nil _
  rcases runs_ofExcept_bind.mp counted with ⟨error, -, rfl, -⟩ | ⟨statement, built, sent⟩
  · exact List.forall_mem_nil _
  rcases runs_bind.mp sent with ⟨error, failed, -⟩ |
    ⟨opening, found, middle, closing, rfl, fetched, read⟩
  · obtain ⟨answer, fetched, -⟩ := runs_during.mp failed
    obtain ⟨rfl, -⟩ := runs_fetchFirst.mp fetched
    exact List.forall_mem_singleton.mpr rfl
  · obtain ⟨answer, fetched, -⟩ := runs_during.mp fetched
    obtain ⟨rfl, -⟩ := runs_fetchFirst.mp fetched
    cases found with
    | none =>
      obtain ⟨rfl, -⟩ := runs_pure.mp read
      exact List.forall_mem_singleton.mpr rfl
    | some row =>
      obtain ⟨rfl, -⟩ := runs_ofExcept.mp read
      exact List.forall_mem_singleton.mpr rfl

end Query

end RecordMapper
