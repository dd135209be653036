/-
This file proves the discipline of hooks. Whatever a database and the hooks themselves do, a hook is
called only if the model declares it and the record type answers to it: those of a saved record once
and in turn, the one of loaded records once for each row in its order. A hook before statements can
stop an operation, which then sends nothing. Hooks after statements are called only once all of them
have succeeded, and their verdicts make no difference to anything.
-/

import RecordMapper.Proofs.Query.Endings
import RecordMapper.Proofs.Query.HookCalls

namespace RecordMapper

open Operation

namespace Hook

variable {hook : Hook} {model : Model} {type : RecordType} {Held Result : Type}

/-! ### Heedless hooks -/

/-- After a call an operation is heedless if it goes on alike from answers that agree. -/
theorem heedless_call_bind {call : HookCall} {next : HookReturn → Operation Held Result}
    (follow : ∀ {first second}, first.Agrees call.hook second →
      ∀ held, Program.Alike (next first held) (next second held)) :
    Heedless (Operation.call call >>= next) :=
  fun held => .call fun _ _ agrees => follow agrees held

theorem heedless_before (isBefore : hook.isAfter = false) :
    Heedless (hook.before model type) := by
  unfold before
  split
  · refine heedless_held_bind fun record => heedless_call_bind fun agrees held => ?_
    cases agrees.eq isBefore
    exact .done _
  · exact heedless_pure ()

theorem heedless_beforeChanges (isBefore : hook.isAfter = false) (changes : Changes) :
    Heedless (hook.beforeChanges model type changes) := by
  unfold beforeChanges
  split
  · refine heedless_held_bind fun record => heedless_call_bind fun {first second} agrees held => ?_
    cases agrees.eq isBefore
    have rest : Heedless (ofExcept first.outcome >>= fun _ =>
        (Pure.pure (first.changes.getD changes) : Operation Record Changes)) :=
      (heedless_ofExcept _).bind fun _ => heedless_pure _
    exact rest first.record
  · exact heedless_pure changes

/-- Whatever a hook after statements thinks of them, only its record goes on. -/
theorem heedless_afterOn (changes : Option Changes) (record : Record) :
    Heedless (hook.afterOn model type changes record : Operation Held Record) := by
  unfold afterOn
  split
  · refine heedless_call_bind fun {first second} agrees held => ?_
    obtain ⟨left, _, one⟩ := first
    obtain ⟨right, _, other⟩ := second
    obtain rfl : left = right := agrees.record
    cases one <;> cases other
    · exact .reportLeft (.reportRight (.done _))
    · exact .reportLeft (.done _)
    · exact .reportRight (.done _)
    · exact .done _
  · exact heedless_pure record

theorem heedless_after (changes : Option Changes) : Heedless (hook.after model type changes) :=
  heedless_held_bind fun record =>
    (heedless_afterOn changes record).bind fun saved => heedless_hold saved

end Hook

namespace Query

variable {query : Query} {model : Model} {record after : Record} {exchanges : List Exchange}
  {Held : Type} {held left : Held}

/-! ### Operations that save a record -/

/-- Holding on to the record changes nothing about how an operation ends. -/
theorem ends_held_bind {hook : Hook} {type : RecordType} {Result : Type}
    {next : Record → Operation Record Result}
    (ends : ∀ record, hook.Ends model type (next record)) :
    hook.Ends model type (Operation.held >>= next) :=
  fun held _ _ _ runs => ends held held _ _ _ (runs_held_bind.mp runs)

theorem disciplined_create {outcome : Except Error Outcome} (prepared : query.prepare = .ok model)
    (runs : Runs query.create record exchanges outcome after) :
    Disciplined model query.type exchanges (Outcome.errorOf outcome) ∧
      CallsInTurn model query.type exchanges (Outcome.errorOf outcome)
        [.beforeCreate, .afterCreate] := by
  have sends : ∀ result, outcome = .ok result → statements exchanges ≠ [] := by
    rintro result rfl
    rcases runs_create runs with ⟨-, error, equal⟩ |
      ⟨_, statement, -, -, sent | ⟨_, _, readBack, -, -, sent⟩⟩
    · cases equal
    · rw [sent]
      exact List.cons_ne_nil _ _
    · rw [sent]
      exact List.cons_ne_nil _ _
  rcases runs_ofExcept_bind.mp runs with ⟨error, refused, -⟩ | ⟨_, found, hooked⟩
  · cases prepared.symm.trans refused
  cases prepared.symm.trans found
  refine Hook.disciplined_of_saving rfl rfl (fun _ _ _ _ => Hook.opens_before) (fun _ => ?_) hooked
    sends
  exact ends_held_bind fun inserted => .of_plain (isPlain_ofExcept _) fun statement =>
    .of_plain (isPlain_insert statement _) fun result =>
      .of_plain (isPlain_writeKey inserted result) fun _ =>
        .of_plain isPlain_refresh fun _ => Hook.ends_after none result

/-- What a change goes on with once its assignments are known and there are some. -/
def carryOut (query : Query) (model : Model) (changes : Changes) (keys : List Filter)
    (assigned : List Assignment) : Operation Record Outcome := do
  let statement ← ofExcept (updateStatement model query.dialect assigned (keys ++ query.filters))
  let result ← (execute statement).during "updates" model.name
  if 0 < result.rowsAffected then
    writeAssignments query.type assigned
  Hook.afterUpdate.after model query.type (some changes)
  return result

theorem ends_carryOut (changes : Changes) (keys : List Filter) (assigned : List Assignment) :
    Hook.afterUpdate.Ends model query.type (query.carryOut model changes keys assigned) := by
  refine .of_plain (isPlain_ofExcept _) fun statement =>
    .of_plain ((isPlain_execute statement).during "updates" model.name) fun result => ?_
  split
  · exact .of_plain (isPlain_writeAssignments query.type assigned) fun _ =>
      Hook.ends_after (some changes) result
  · exact Hook.ends_after (some changes) result

theorem disciplined_updates {changes : Changes} {outcome : Except Error Outcome}
    (prepared : query.prepare = .ok model)
    (runs : Runs (query.updates changes) record exchanges outcome after) :
    Disciplined model query.type exchanges (Outcome.errorOf outcome) ∧
      CallsInTurn model query.type exchanges (Outcome.errorOf outcome)
        [.beforeUpdate, .afterUpdate] := by
  have sends : ∀ result, outcome = .ok result → statements exchanges ≠ [] := by
    rintro result rfl
    rcases runs_updates runs with ⟨-, error, equal⟩ | ⟨_, _, _, statement, -, -, -, -, sent⟩
    · cases equal
    · rw [sent]
      exact List.cons_ne_nil _ _
  rcases runs_ofExcept_bind.mp runs with ⟨error, refused, -⟩ | ⟨_, found, keyed⟩
  · cases prepared.symm.trans refused
  cases prepared.symm.trans found
  rcases runs_ofExcept_bind.mp (runs_held_bind.mp keyed) with
    ⟨error, -, rfl, rfl, -⟩ | ⟨keys, pinned, hooked⟩
  · exact disciplined_of_nothing model query.type error _
  refine Hook.disciplined_of_saving rfl rfl (fun _ _ _ _ => Hook.opens_beforeChanges)
    (fun changes => .of_plain (isPlain_assignments changes.entries) fun assigned => ?_) hooked sends
  split
  · exact .of_plain (isPlain_fail _) fun _ => ends_carryOut changes keys assigned
  · exact ends_carryOut changes keys assigned

theorem disciplined_delete {outcome : Except Error Outcome} (prepared : query.prepare = .ok model)
    (runs : Runs query.delete record exchanges outcome after) :
    Disciplined model query.type exchanges (Outcome.errorOf outcome) ∧
      CallsInTurn model query.type exchanges (Outcome.errorOf outcome)
        [.beforeDelete, .afterDelete] := by
  have sends : ∀ result, outcome = .ok result → statements exchanges ≠ [] := by
    rintro result rfl
    rcases runs_delete runs with ⟨-, error, equal⟩ | ⟨_, _, statement, -, -, -, sent⟩
    · cases equal
    · rw [sent]
      exact List.cons_ne_nil _ _
  rcases runs_ofExcept_bind.mp runs with ⟨error, refused, -⟩ | ⟨_, found, keyed⟩
  · cases prepared.symm.trans refused
  cases prepared.symm.trans found
  rcases runs_ofExcept_bind.mp (runs_held_bind.mp keyed) with
    ⟨error, -, rfl, rfl, -⟩ | ⟨keys, pinned, hooked⟩
  · exact disciplined_of_nothing model query.type error _
  refine Hook.disciplined_of_saving rfl rfl (fun _ _ _ _ => Hook.opens_before)
    (fun _ => .of_plain (isPlain_ofExcept _) fun statement => ?_) hooked sends
  exact .of_plain ((isPlain_execute statement).during "delete" model.name) fun result =>
    Hook.ends_after none result

/-! ### Operations that load records -/

theorem loads_of_findById {key : Value} {outcome : Except Error Record}
    (prepared : query.prepare = .ok model)
    (runs : Runs (query.findById key) held exchanges outcome left) :
    Loads query.type model Exchange.firstRow exchanges := by
  rcases runs_ofExcept_bind.mp runs with ⟨error, -, rfl, -⟩ | ⟨_, found, keyed⟩
  · exact loads_of_uncalled rfl (List.forall_mem_nil _)
  cases prepared.symm.trans found
  cases key : model.soleKey? with
  | none =>
    rw [key] at keyed
    obtain ⟨rfl, -⟩ := runs_fail.mp keyed
    exact loads_of_uncalled rfl (List.forall_mem_nil _)
  | some field =>
    rw [key] at keyed
    rcases runs_ofExcept_bind.mp keyed with ⟨error, -, rfl, -⟩ | ⟨statement, -, sent⟩
    · exact loads_of_uncalled rfl (List.forall_mem_nil _)
    · exact loads_of_loadOne sent

theorem loads_of_first {outcome : Except Error Record} (prepared : query.prepare = .ok model)
    (runs : Runs query.first held exchanges outcome left) :
    Loads query.type model Exchange.firstRow exchanges := by
  rcases runs_ofExcept_bind.mp runs with ⟨error, -, rfl, -⟩ | ⟨_, found, selected⟩
  · exact loads_of_uncalled rfl (List.forall_mem_nil _)
  cases prepared.symm.trans found
  rcases runs_ofExcept_bind.mp selected with ⟨error, -, rfl, -⟩ | ⟨statement, -, sent⟩
  · exact loads_of_uncalled rfl (List.forall_mem_nil _)
  · exact loads_of_loadOne sent

theorem loads_of_count {outcome : Except Error Int64}
    (runs : Runs query.count held exchanges outcome left) :
    Loads query.type model Exchange.allRows exchanges :=
  loads_of_uncalled (isPlain_count _ _ _ _ runs).1 (allRows_of_count runs)

/-- A page is counted first and then loaded as a search is. -/
theorem loads_of_page {page : Page} {outcome : Except Error PageContent}
    (prepared : query.prepare = .ok model)
    (runs : Runs (page.load query) held exchanges outcome left) :
    Loads query.type model Exchange.allRows exchanges := by
  rcases runs_bind.mp runs with ⟨error, failed, -⟩ |
    ⟨opening, total, middle, closing, rfl, counted, loaded⟩
  · exact loads_of_count failed
  obtain ⟨uncalled, succeeds⟩ := isPlain_count _ _ _ _ counted
  refine .append uncalled (allRows_of_count counted) (succeeds total rfl) ?_
  rcases runs_bind.mp loaded with ⟨error, failed, -⟩ |
    ⟨reading, records, after, finishing, rfl, read, finished⟩
  · exact loads_of_scan (page.apply query) prepared failed
  · obtain ⟨rfl, -⟩ := runs_pure.mp finished
    rw [List.append_nil]
    exact loads_of_scan (page.apply query) prepared read

/-! ### Operations pay no heed to verdicts -/

theorem heedless_create : Heedless query.create := by
  refine (heedless_ofExcept _).bind fun model => (Hook.heedless_before rfl).bind fun _ =>
    heedless_held_bind fun inserted => (heedless_ofExcept _).bind fun statement => ?_
  exact (isPlain_insert statement _).heedless.bind fun result =>
    (isPlain_writeKey inserted result).heedless.bind fun _ =>
      isPlain_refresh.heedless.bind fun _ =>
        (Hook.heedless_after none).bind fun _ => heedless_pure result

theorem heedless_carryOut (changes : Changes) (keys : List Filter) (assigned : List Assignment) :
    Heedless (query.carryOut model changes keys assigned) := by
  refine (heedless_ofExcept _).bind fun statement =>
    ((isPlain_execute statement).during "updates" model.name).heedless.bind fun result => ?_
  have calling : Heedless (Hook.afterUpdate.after model query.type (some changes) >>= fun _ =>
      Pure.pure result) := (Hook.heedless_after (some changes)).bind fun _ => heedless_pure result
  split
  · exact (isPlain_writeAssignments query.type assigned).heedless.bind fun _ => calling
  · exact calling

theorem heedless_updates (changes : Changes) : Heedless (query.updates changes) := by
  refine (heedless_ofExcept _).bind fun model => heedless_held_bind fun record =>
    (heedless_ofExcept _).bind fun keys => (Hook.heedless_beforeChanges rfl changes).bind
      fun changes => (isPlain_assignments changes.entries).heedless.bind fun assigned => ?_
  split
  · exact (heedless_fail _).bind fun _ => heedless_carryOut changes keys assigned
  · exact heedless_carryOut changes keys assigned

theorem heedless_delete : Heedless query.delete := by
  refine (heedless_ofExcept _).bind fun model => heedless_held_bind fun record =>
    (heedless_ofExcept _).bind fun keys => (Hook.heedless_before rfl).bind fun _ =>
      (heedless_ofExcept _).bind fun statement => ?_
  exact ((isPlain_execute statement).during "delete" model.name).heedless.bind fun result =>
    (Hook.heedless_after none).bind fun _ => heedless_pure result

theorem heedless_load (row : Row) : Heedless (query.load model row : Operation Held Record) :=
  (heedless_ofExcept _).bind fun record => Hook.heedless_afterOn none record

theorem heedless_loadOne (name : String) (statement : Statement) :
    Heedless (query.loadOne model name statement : Operation Held Record) := by
  refine ((isPlain_fetchFirst statement).during name model.name).heedless.bind fun found => ?_
  cases found with
  | none => exact heedless_fail _
  | some row => exact heedless_load row

theorem heedless_findById (key : Value) :
    Heedless (query.findById key : Operation Held Record) := by
  refine (heedless_ofExcept _).bind fun model => ?_
  split
  · exact heedless_fail _
  · exact (heedless_ofExcept _).bind fun statement => heedless_loadOne "find_by_id" statement

theorem heedless_first : Heedless (query.first : Operation Held Record) :=
  (heedless_ofExcept _).bind fun _ => (heedless_ofExcept _).bind fun statement =>
    heedless_loadOne "first" statement

theorem heedless_loadEach (rows : List Row) : Heedless (query.loadEach model rows) := by
  induction rows with
  | nil => exact heedless_pure ()
  | cons row rest inductionHypothesis =>
    exact (heedless_load row).bind fun record => heedless_held_bind fun loaded =>
      (heedless_hold _).bind fun _ => inductionHypothesis

theorem heedless_find : Heedless query.find :=
  (heedless_hold _).bind fun _ => (heedless_ofExcept _).bind fun model =>
    (heedless_ofExcept _).bind fun statement =>
      ((isPlain_fetchAll statement).during "find" model.name).heedless.bind heedless_loadEach

theorem heedless_scan : Heedless (query.scan : Operation Held (List Record)) :=
  (heedless_within heedless_find []).bind fun (outcome, records) =>
    heedless_ofExcept (outcome.map fun _ => records)

theorem heedless_page (page : Page) : Heedless (page.load query : Operation Held PageContent) :=
  isPlain_count.heedless.bind fun _ => heedless_scan.bind fun _ => heedless_pure _

/-! ### Uses -/

/-- The calls that a use makes: those of its hooks in turn, or those for the rows it is given. -/
def Use.CallsHooks (model : Model) (type : RecordType) (exchanges : List Exchange)
    (error? : Option Error) : Use → Prop
  | .create _ => CallsInTurn model type exchanges error? [.beforeCreate, .afterCreate]
  | .updates _ _ => CallsInTurn model type exchanges error? [.beforeUpdate, .afterUpdate]
  | .delete _ => CallsInTurn model type exchanges error? [.beforeDelete, .afterDelete]
  | .findById _ | .first =>
    calls exchanges = type.loadCalls model (exchanges.flatMap Exchange.firstRow)
  | .find _ | .scan | .paginate _ =>
    calls exchanges = type.loadCalls model (exchanges.flatMap Exchange.allRows)
  | .count => calls exchanges = []

/-- What a use ends with: its outcome and what the caller has handed over, as it is left. -/
def Use.Ending : Use → Type
  | .create _ | .updates _ _ | .delete _ => Except Error Outcome × Record
  | .findById _ | .first => Except Error Record × Unit
  | .find _ => Except Error Unit × List Record
  | .scan => Except Error (List Record) × Unit
  | .count => Except Error Int64 × Unit
  | .paginate _ => Except Error PageContent × Unit

/-- What a use does. -/
def Use.program (query : Query) : (use : Use) → Program use.Ending
  | .create record => query.create record
  | .findById key => query.findById key ()
  | .first => query.first ()
  | .find records => query.find records
  | .scan => query.scan ()
  | .count => query.count ()
  | .updates record changes => query.updates changes record
  | .delete record => query.delete record
  | .paginate page => page.load query ()

theorem Use.exchanges_eq {State : Type} (environment : Environment State) (state : State)
    (use : Use) : use.exchanges environment state query =
      (use.program query).exchanges environment state := by
  cases use <;> rfl

/-- No use pays heed to the verdicts of hooks after statements. -/
theorem Use.alike_program (use : Use) :
    Program.Alike (use.program query) (use.program query) := by
  cases use with
  | create record => exact heedless_create record
  | findById key => exact heedless_findById key ()
  | first => exact heedless_first ()
  | find records => exact heedless_find records
  | scan => exact heedless_scan ()
  | count => exact isPlain_count.heedless ()
  | updates record changes => exact heedless_updates changes record
  | delete record => exact heedless_delete record
  | paginate page => exact heedless_page page ()

/-- A use of a query that can be prepared keeps the discipline and calls its hooks. -/
theorem Use.disciplined (prepared : query.prepare = .ok model) (use : Use) {State : Type}
    (environment : Environment State) (state : State) :
    Disciplined model query.type (use.exchanges environment state query)
        (use.error? environment state query) ∧
      use.CallsHooks model query.type (use.exchanges environment state query)
        (use.error? environment state query) := by
  have ofFirst : ∀ exchange : Exchange, exchange.statement? = none → exchange.firstRow = [] := by
    intro exchange unsent
    cases exchange <;> first | rfl | cases unsent
  have ofAll : ∀ exchange : Exchange, exchange.statement? = none → exchange.allRows = [] := by
    intro exchange unsent
    cases exchange <;> first | rfl | cases unsent
  have ran : ∀ {Result : Type} (program : Program Result),
      Program.Runs program (program.exchanges environment state)
        (program.run environment state).1 :=
    fun program => Program.runs_exchanges environment program state
  cases use with
  | create record => exact disciplined_create prepared (ran _)
  | updates record changes => exact disciplined_updates prepared (ran _)
  | delete record => exact disciplined_delete prepared (ran _)
  | findById key => exact (loads_of_findById prepared (ran _)).disciplined ofFirst _
  | first => exact (loads_of_first prepared (ran _)).disciplined ofFirst _
  | find records => exact (loads_of_find prepared (ran _)).disciplined ofAll _
  | scan => exact (loads_of_scan _ prepared (ran _)).disciplined ofAll _
  | paginate page => exact (loads_of_page prepared (ran _)).disciplined ofAll _
  | count =>
    have counted : Runs (query.count : Operation Unit Int64) () _ _ _ := ran _
    have loaded : Loads query.type model Exchange.allRows _ := loads_of_count counted
    exact ⟨(loaded.disciplined ofAll _).1, (isPlain_count _ _ _ _ counted).1⟩

/-- Hooks keep their discipline in every use of a query and in every environment, and environments
that differ only in the verdicts of hooks after statements make no difference to a use. -/
theorem hooks_disciplined (query : Query) (use : Use) :
    (∀ {State : Type} (environment : Environment State) (state : State),
      (∃ error, query.prepare = .error error ∧ use.exchanges environment state query = []) ∨
      ∃ model, query.prepare = .ok model ∧
        Disciplined model query.type (use.exchanges environment state query)
          (use.error? environment state query) ∧
        use.CallsHooks model query.type (use.exchanges environment state query)
          (use.error? environment state query)) ∧
    ∀ {State Other : Type} {first : Environment State} {second : Environment Other}
      {alike : State → Other → Prop}, first.Agrees second alike →
      ∀ state other, alike state other →
        SameAnswer alike ((use.program query).run first state)
          ((use.program query).run second other) ∧
        statements (use.exchanges first state query) =
          statements (use.exchanges second other query) := by
  refine ⟨fun environment state => ?_, fun agrees state other states => ?_⟩
  · cases prepared : query.prepare with
    | error error =>
      exact .inl ⟨error, rfl, (Use.ends_of_unprepared prepared use environment state).2.1⟩
    | ok model => exact .inr ⟨model, rfl, use.disciplined prepared environment state⟩
  · rw [Use.exchanges_eq, Use.exchanges_eq]
    exact use.alike_program.sameRun agrees states

/-- An environment in which hooks after statements fail and everything else succeeds. -/
def grumbling : Environment Unit :=
  { Environment.empty with
    call := fun call state =>
      (⟨call.record, call.changes,
        if call.hook.isAfter then .error (.notFound call.type.name) else .ok ()⟩, state) }

theorem grumbling_agrees : Environment.empty.Agrees grumbling fun _ _ => True where
  execute _ _ := ⟨rfl, trivial⟩
  fetchFirst _ _ := ⟨rfl, trivial⟩
  fetchAll _ _ := ⟨rfl, trivial⟩
  call _ call :=
    ⟨⟨rfl, rfl, fun isBefore => by simp [grumbling, Environment.empty, isBefore]⟩, trivial⟩
  control _ _ := ⟨rfl, trivial⟩
  reportLeft _ _ := trivial
  reportRight _ _ := trivial

/-- The query on seats that declare every hook and answer to the one after a deletion. -/
def watchedSeats : Query where
  dialect := .postgres
  type := { seat with hooks := Hook.all, answers := [.afterDelete] }
  model := (Schema.resolve .snakeCasePlural { seat.descriptor with hooks := Hook.all }).2

/-- A hook after the deletion of a seat is called and fails, and the deletion succeeds as it does
where the hook is content. -/
theorem hooks_disciplined_watchedSeats :
    (calls ((Use.delete [.int 3, .int 7, .null]).exchanges grumbling () watchedSeats)).map
        HookCall.hook = [.afterDelete] ∧
      Environment.empty.Agrees grumbling (fun _ _ => True) ∧
      (((Use.delete [.int 3, .int 7, .null]).program watchedSeats).run .empty ()).1 =
        (((Use.delete [.int 3, .int 7, .null]).program watchedSeats).run grumbling ()).1 :=
  ⟨by decide +kernel, grumbling_agrees,
    ((hooks_disciplined watchedSeats (.delete [.int 3, .int 7, .null])).2 grumbling_agrees () ()
      trivial).1.1⟩

end Query

end RecordMapper
