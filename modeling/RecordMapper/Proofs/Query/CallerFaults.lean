/-
This file proves that no statement is sent where the caller is to blame. Conditions, assignments and
keys are looked at before the statement they belong to. What runs after a statement works with
fields of the model only, which the record type answers to, so it can fail by the values it meets
but not by a name. The second statement of an insertion takes its conditions from keys that are
set, and that of a page has the conditions under which the rows were counted before.
-/

import RecordMapper.Proofs.Program.Blame
import RecordMapper.Proofs.Query.Collecting
import RecordMapper.Proofs.Query.Keys
import RecordMapper.Proofs.Record.Overwriting

namespace RecordMapper

open Operation

/-! ### What fails by values -/

section

variable {model : Model} {error : Error}

theorem blamesCaller_of_coerceOperand {kind : Kind} {value : Value}
    (failed : coerceOperand kind value = .error error) : error.blamesCaller = false := by
  unfold coerceOperand at failed
  cases coerced : value.coerce kind with
  | ok result =>
    rw [coerced] at failed
    cases failed
  | error fault =>
    rw [coerced] at failed
    cases failed
    rfl

/-- The conditions of keys that are set fail by their values only. -/
theorem blamesCaller_of_keyFilters (accepted : model.IsAccepted) {record : Record}
    {filters : List Filter} (known : keyFilters? model record = some filters)
    (failed : conditions model filters = .error error) : error.blamesCaller = false := by
  obtain ⟨-, set, rfl⟩ := keyFilters?_eq_some.mp known
  obtain ⟨filter, member, failed⟩ := Outcome.exists_of_mapM_eq_error failed
  obtain ⟨key, keyMember, rfl⟩ := List.mem_map.mp member
  have resolved := accepted.resolve?_column (Model.mem_of_primaryKeys keyMember)
  have present : (valueAt record key.position).isNull = false := by
    have isSet := set key keyMember
    unfold IsUnset at isSet
    cases value : valueAt record key.position <;> simp_all [Value.isNull, Value.isDefault]
  unfold keyFilter Filter.condition at failed
  simp only [Filter.key, resolved, present, Bool.false_eq_true, if_false] at failed
  cases coerced : coerceOperand key.kind (valueAt record key.position) with
  | ok operand =>
    rw [coerced] at failed
    cases failed
  | error other =>
    rw [coerced] at failed
    cases failed
    exact blamesCaller_of_coerceOperand coerced

/-- Reading a record from a row fails by the row only. -/
theorem blamesCaller_of_ofRow {type : RecordType} {row : Row}
    (failed : type.ofRow model row = .error error) : error.blamesCaller = false := by
  have cells (column : Nat) (fields : List Field) (other : Error)
      (unread : decodeCells row column fields = .error other) : other.blamesCaller = false := by
    induction fields generalizing column with
    | nil => cases unread
    | cons field rest inductionHypothesis =>
      unfold decodeCells at unread
      split at unread
      · cases unread
        rfl
      · cases later : decodeCells row (column + 1) rest with
        | ok found =>
          rw [later] at unread
          cases unread
        | error inner =>
          rw [later] at unread
          cases unread
          exact inductionHypothesis _ later
  unfold RecordType.ofRow at failed
  split at failed
  · rename_i other unread
    cases failed
    exact cells _ _ _ unread
  · rename_i found _
    unfold RecordType.ofValues at failed
    cases stored : storeAll type.name type.fields
        (placeValues (List.replicate model.valueCount .null) found) with
    | ok record =>
      rw [stored] at failed
      cases failed
    | error fault =>
      rw [stored] at failed
      cases failed
      rfl

theorem blamesCaller_of_countOfRow {row : Row} (failed : Query.countOfRow row = .error error) :
    error.blamesCaller = false := by
  unfold Query.countOfRow at failed
  split at failed
  · cases failed
    rfl
  · split at failed
    · cases failed
    · cases failed
      rfl

theorem blamesCaller_of_keyOfRow {key : Field} {row : Row}
    (failed : Query.keyOfRow key row = .error error) : error.blamesCaller = false := by
  unfold Query.keyOfRow at failed
  split at failed
  · cases failed
    rfl
  · cases failed

end

/-! ### Hooks after a statement -/

namespace Hook

variable {hook : Hook} {model : Model} {type : RecordType}

theorem spares_reportFailure {Held : Type} (outcome : Except Error Unit) :
    Spares (hook.reportFailure model outcome : Operation Held Unit) := by
  cases outcome with
  | ok _ => exact spares_pure ()
  | error error => exact spares_report _ _

/-- A hook after a statement cannot fail the operation, so its own errors do not count. -/
theorem spares_afterOn {Held : Type} (changes : Option Changes) (record : Record) :
    Spares (hook.afterOn model type changes record : Operation Held Record) := by
  unfold afterOn
  split
  · exact (spares_call _).bind fun answer =>
      (spares_reportFailure answer.outcome).bind fun _ => spares_pure answer.record
  · exact spares_pure record

theorem spares_after (changes : Option Changes) : Spares (hook.after model type changes) :=
  spares_held_bind fun record =>
    (spares_afterOn changes record).bind fun saved => spares_hold saved

end Hook

namespace Query

variable {query : Query} {model : Model} {Held : Type}

/-! ### Reading -/

theorem spares_load (row : Row) : Spares (query.load model row : Operation Held Record) :=
  (spares_ofExcept fun _ => blamesCaller_of_ofRow).bind fun record =>
    Hook.spares_afterOn none record

theorem spares_loadOne (name : String) (statement : Statement) :
    Spares (query.loadOne model name statement : Operation Held Record) := by
  refine ((spares_fetchFirst statement).during name model.name).bind fun found => ?_
  cases found with
  | none => exact spares_fail rfl
  | some row => exact spares_load row

theorem spares_loadEach (rows : List Row) : Spares (query.loadEach model rows) := by
  induction rows with
  | nil => exact spares_pure ()
  | cons row rest inductionHypothesis =>
    exact (spares_load row).bind fun record => spares_held_bind fun loaded =>
      (spares_hold _).bind fun _ => inductionHypothesis

/-- Taking all rows of a statement and loading them fails by the connection or by the rows. -/
theorem spares_loadAll (statement : Statement) :
    Spares ((fetchAll statement).during "find" model.name >>= query.loadEach model) :=
  ((spares_fetchAll statement).during "find" model.name).bind spares_loadEach

theorem blamesEarly_findById (key : Value) :
    BlamesEarly (query.findById key : Operation Held Record) := by
  refine blamesEarly_ofExcept_bind fun model _ => ?_
  cases model.soleKey? with
  | none => exact blamesEarly_fail _
  | some field =>
    exact blamesEarly_ofExcept_bind fun statement _ =>
      (spares_loadOne "find_by_id" statement).blamesEarly

theorem blamesEarly_first : BlamesEarly (query.first : Operation Held Record) :=
  blamesEarly_ofExcept_bind fun _ _ => blamesEarly_ofExcept_bind fun statement _ =>
    (spares_loadOne "first" statement).blamesEarly

theorem blamesEarly_find : BlamesEarly query.find :=
  (isSilent_hold []).bind_blamesEarly fun _ _ _ _ _ =>
    blamesEarly_ofExcept_bind fun _ _ => blamesEarly_ofExcept_bind fun statement _ =>
      (spares_loadAll statement).blamesEarly

/-- Once the statement of a search can be built, the caller is not to blame for anything. -/
theorem spares_find (prepared : query.prepare = .ok model) {statement : Statement}
    (selected : selectStatement model query.dialect query.filters query.order query.limit
      query.offset = .ok statement) : Spares query.find := by
  exact (spares_hold []).bind fun _ => spares_ofExcept_bind prepared
    (spares_ofExcept_bind selected (spares_loadAll statement))

theorem spares_scan (spares : Spares query.find) :
    Spares (query.scan : Operation Held (List Record)) := by
  intro held exchanges error after answers runs
  obtain ⟨found, records, searched, equal⟩ := find_of_runs_scan runs
  cases found with
  | ok done => cases equal
  | error inner =>
    cases equal
    exact spares _ _ _ _ answers searched

theorem blamesEarly_scan : BlamesEarly (query.scan : Operation Held (List Record)) := by
  intro held exchanges error after answers runs blames
  obtain ⟨found, records, searched, equal⟩ := find_of_runs_scan runs
  cases found with
  | ok done => cases equal
  | error inner =>
    cases equal
    exact blamesEarly_find _ _ _ _ answers searched blames

theorem blamesEarly_count : BlamesEarly (query.count : Operation Held Int64) := by
  refine blamesEarly_ofExcept_bind fun model _ => blamesEarly_ofExcept_bind fun statement _ =>
    Spares.blamesEarly ?_
  refine ((spares_fetchFirst statement).during "count" model.name).bind fun found => ?_
  cases found with
  | none => exact spares_pure 0
  | some row => exact spares_ofExcept fun _ => blamesCaller_of_countOfRow

/-- The second statement of a page is sent under the conditions of the first one, so that what the
caller could be blamed for has been found by then. -/
theorem blamesEarly_page (page : Page) :
    BlamesEarly (page.load query : Operation Held PageContent) := by
  intro held exchanges error after answers runs blames
  rcases runs_bind.mp runs with ⟨inner, failed, equal⟩ |
    ⟨opening, total, middle, closing, rfl, counted, loaded⟩
  · cases equal
    exact blamesEarly_count _ _ _ _ answers failed blames
  · rcases runs_count counted with ⟨-, inner, equal⟩ | ⟨model, statement, prepared, built, -⟩
    · cases equal
    obtain ⟨found, carried, -⟩ := Outcome.map_eq_ok.mp built
    have searches : Spares (page.apply query).find :=
      spares_find prepared (Outcome.map_eq_ok.mpr ⟨found, carried, rfl⟩)
    have loads : Spares ((page.apply query).scan >>= fun records =>
        (Pure.pure ⟨records, total, page, page.totalPages total⟩ : Operation Held PageContent)) :=
      (spares_scan searches).bind fun records => spares_pure _
    rw [loads _ _ _ _ (fromConnection_append.mp answers).2 loaded] at blames
    cases blames

/-! ### Saving -/

section

variable {type : RecordType} {field : Field}

/-- Overwriting a field of the model fails by the value only. -/
theorem spares_overwrite (resolves : type.ResolvesTo model) (consistent : type.KeepsOutIgnored)
    (member : field ∈ model.fields) (value : Value) : Spares (overwrite type field value) := by
  refine spares_held_bind fun record => (spares_ofExcept fun error failed => ?_).bind spares_hold
  obtain ⟨fault, rfl⟩ := type.setValue_eq_error resolves consistent member failed
  rfl

theorem spares_copyCells (resolves : type.ResolvesTo model) (consistent : type.KeepsOutIgnored)
    (row : Row) (column : Nat) {fields : List Field}
    (members : ∀ field ∈ fields, field ∈ model.fields) :
    Spares (copyCells type row column fields) := by
  induction fields generalizing column with
  | nil => exact spares_pure ()
  | cons field rest inductionHypothesis =>
    refine (spares_ofExcept fun error failed => ?_).bind fun value =>
      (spares_overwrite resolves consistent (members field List.mem_cons_self) value).bind fun _ =>
        inductionHypothesis (column + 1) fun each later =>
          members each (List.mem_cons_of_mem _ later)
    cases read : Wire.decode row column field.kind with
    | ok value =>
      rw [read] at failed
      cases failed
    | error fault =>
      rw [read] at failed
      cases failed
      rfl

theorem spares_writeAssignments (resolves : type.ResolvesTo model)
    (consistent : type.KeepsOutIgnored) {assigned : List Assignment}
    (members : ∀ each ∈ assigned, each.1 ∈ model.fields) :
    Spares (writeAssignments type assigned) := by
  induction assigned with
  | nil => exact spares_pure ()
  | cons assignment rest inductionHypothesis =>
    exact (spares_overwrite resolves consistent (members assignment List.mem_cons_self) _).bind
      fun _ => inductionHypothesis fun each later => members each (List.mem_cons_of_mem _ later)

end

theorem spares_insert (statement : Statement) (asked : Option Field) :
    Spares (insert model statement asked) := by
  cases asked with
  | none => exact (spares_execute statement).during "create" model.name
  | some key =>
    refine ((spares_fetchFirst statement).during "create" model.name).bind fun found => ?_
    cases found with
    | none => exact spares_pure _
    | some row =>
      exact (spares_ofExcept fun _ => blamesCaller_of_keyOfRow).bind fun identifier => spares_pure _

section

variable (resolves : query.type.ResolvesTo model) (consistent : query.type.KeepsOutIgnored)

include resolves consistent

theorem spares_writeKey (inserted : Record) (outcome : Outcome) :
    Spares (query.writeKey model inserted outcome) := by
  unfold writeKey
  split
  · rename_i key identifier generated _
    split
    · have member : key ∈ model.fields :=
        Model.mem_of_primaryKeys (Model.mem_of_generatedKey? generated)
      exact (spares_ofExcept fun _ => blamesCaller_of_coerceOperand).bind fun value =>
        spares_overwrite resolves consistent member value
    · exact spares_pure ()
  · exact spares_pure ()

theorem spares_refresh : Spares (query.refresh model) := by
  refine spares_held_bind fun record => ?_
  cases known : keyFilters? model record with
  | none => exact spares_report _ _
  | some filters =>
    refine (spares_ofExcept fun error failed => ?_).bind fun statement =>
      ((spares_fetchFirst statement).during "create" model.name).bind fun found => ?_
    · unfold selectStatement at failed
      cases carried : conditions model filters with
      | ok conditions =>
        rw [carried] at failed
        cases failed
      | error inner =>
        rw [carried] at failed
        cases failed
        exact blamesCaller_of_keyFilters resolves.isAccepted known carried
    · cases found with
      | none => exact spares_pure ()
      | some row => exact spares_copyCells resolves consistent row 0 fun _ member => member

end

theorem blamesEarly_create (resolved : query.IsResolved)
    (consistent : query.type.KeepsOutIgnored) : BlamesEarly query.create := by
  refine blamesEarly_ofExcept_bind fun model prepared => ?_
  have resolves := resolved model (model_of_prepare prepared)
  refine Hook.isSilent_before.bind_blamesEarly fun _ _ _ _ _ =>
    blamesEarly_held_bind fun inserted =>
      blamesEarly_ofExcept_bind fun statement _ => Spares.blamesEarly ?_
  exact (spares_insert statement _).bind fun outcome =>
    (spares_writeKey resolves consistent inserted outcome).bind fun _ =>
      (spares_refresh resolves consistent).bind fun _ =>
        (Hook.spares_after none).bind fun _ => spares_pure outcome

theorem blamesEarly_updates
    (resolved : query.IsResolved)
    (consistent : query.type.KeepsOutIgnored) (changes : Changes) :
    BlamesEarly (query.updates changes) := by
  refine blamesEarly_ofExcept_bind fun model prepared => blamesEarly_held_bind fun record =>
    blamesEarly_ofExcept_bind fun keys _ => ?_
  have resolves := resolved model (model_of_prepare prepared)
  refine (Hook.isSilent_beforeChanges changes).bind_blamesEarly fun _ _ left _ _ =>
    (isSilent_assignments left.entries).bind_blamesEarly fun _ _ assigned _ collected => ?_
  have members := mem_of_assigns ((runs_assignments collected).2.2 assigned rfl)
  split
  · refine (isSilent_fail _).bind_blamesEarly fun _ _ _ _ failed => ?_
    cases (runs_fail.mp failed).2.1
  · refine blamesEarly_ofExcept_bind fun statement _ => Spares.blamesEarly ?_
    refine ((spares_execute statement).during "updates" model.name).bind fun outcome => ?_
    split
    · exact (spares_writeAssignments resolves consistent members).bind fun _ =>
        (Hook.spares_after _).bind fun _ => spares_pure outcome
    · exact (Hook.spares_after _).bind fun _ => spares_pure outcome

theorem blamesEarly_delete : BlamesEarly query.delete :=
  blamesEarly_ofExcept_bind fun model _ => blamesEarly_held_bind fun _ =>
    blamesEarly_ofExcept_bind fun _ _ => Hook.isSilent_before.bind_blamesEarly fun _ _ _ _ _ =>
      blamesEarly_ofExcept_bind fun statement _ => Spares.blamesEarly
        (((spares_execute statement).during "delete" model.name).bind fun outcome =>
          (Hook.spares_after none).bind fun _ => spares_pure outcome)

/-! ### All uses -/

/-- A use of a query whose model is that of its record type sends nothing where the caller is to
blame. -/
theorem Use.statements_of_blame
    (resolved : query.IsResolved)
    (consistent : query.type.KeepsOutIgnored) (use : Use) {State : Type}
    {environment : Environment State} (connection : environment.IsConnection) {state : State}
    {error : Error} (failed : use.error? environment state query = some error)
    (blames : error.blamesCaller = true) :
    statements (use.exchanges environment state query) = [] := by
  cases use with
  | create record =>
    exact (blamesEarly_create resolved consistent).statements_exchanges connection failed blames
  | findById key => exact (blamesEarly_findById key).statements_exchanges connection failed blames
  | first => exact blamesEarly_first.statements_exchanges connection failed blames
  | find records => exact blamesEarly_find.statements_exchanges connection failed blames
  | scan => exact blamesEarly_scan.statements_exchanges connection failed blames
  | count => exact blamesEarly_count.statements_exchanges connection failed blames
  | updates record changes =>
    exact (blamesEarly_updates resolved consistent changes).statements_exchanges connection failed
      blames
  | delete record => exact blamesEarly_delete.statements_exchanges connection failed blames
  | paginate page => exact (blamesEarly_page page).statements_exchanges connection failed blames

/-- The caller is blamed before anything is sent. Whatever has been collected in a query, if a use
of it on a connection ends with an error for which the record definition or the call is to blame,
then no statement was sent. Errors of hooks before a statement are no exception. -/
theorem caller_blamed_early (dialect : Dialect) (cache : SchemaCache) (type : RecordType)
    (consistent : type.KeepsOutIgnored) (faithful : cache.IsFaithful type) (calls : List Call)
    (use : Use) {State : Type} (environment : Environment State)
    (connection : environment.IsConnection) (state : State) (error : Error)
    (failed : use.error? environment state ((start dialect cache type).2.1.collect calls) =
      some error) (blames : error.blamesCaller = true) :
    statements (use.exchanges environment state ((start dialect cache type).2.1.collect calls)) =
      [] := by
  have sameType : ((start dialect cache type).2.1.collect calls).type = type :=
    (extends_collect (start dialect cache type).2.1 calls).type
  refine use.statements_of_blame (isResolved_collect dialect faithful calls) ?_ connection failed
    blames
  rw [sameType]
  exact consistent

/-- A seat without a number is not deleted: the caller is to blame, and nothing has been sent. -/
theorem caller_blamed_early_seat :
    let cache : SchemaCache := { naming := .snakeCasePlural }
    let query := (start .postgres cache seat).2.1.collect [.filter (.absent false "guest")]
    (Use.delete [.int 3, .int 0, .null]).error? .empty () query =
        some (.zeroPrimaryKey "Seat" "number" "delete") ∧
      statements ((Use.delete [.int 3, .int 0, .null]).exchanges .empty () query) = [] := by
  have failed : (Use.delete [.int 3, .int 0, .null]).error? .empty ()
      ((start .postgres { naming := .snakeCasePlural } seat).2.1.collect
        [.filter (.absent false "guest")]) =
      some (.zeroPrimaryKey "Seat" "number" "delete") := by decide +kernel
  have consistent : seat.KeepsOutIgnored := by
    intro field member typeName stored
    simp only [seat, List.mem_cons, List.not_mem_nil, or_false] at member
    rcases member with rfl | rfl | rfl <;> cases stored
  exact ⟨failed, caller_blamed_early .postgres { naming := .snakeCasePlural } seat consistent
    (SchemaCache.isFaithful_empty _ _) _ _ .empty ⟨nofun, nofun, nofun⟩ () _ failed rfl⟩

end Query

end RecordMapper
