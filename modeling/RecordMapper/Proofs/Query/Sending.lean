/-
This file says which statements the operations on a query send. Each operation prepares the query,
may call a hook, and then builds its statement by one of five functions; nothing else is ever
sent. The uses of a query are collected in one type, so that what holds of everything that is
sent can be stated once.
-/

import Mathlib.Data.List.Forall2
import RecordMapper.Dialect.Postgres
import RecordMapper.Page.Basic
import RecordMapper.Proofs.Filter.Carrying
import RecordMapper.Proofs.Query.Hooks
import RecordMapper.Query.Modify

namespace RecordMapper

open Operation

namespace Query

variable {query : Query} {model : Model} {record after : Record} {exchanges : List Exchange}

/-- Preparing a query gives its model. -/
theorem model_of_prepare {model : Model} (prepared : query.prepare = .ok model) :
    query.model = .ok model := by
  unfold prepare at prepared
  split at prepared
  · cases prepared
  · cases prepared
  · rename_i found _
    rw [found]
    exact prepared

/-- Nothing of its own is sent by an operation that fails. -/
def Declines {Result : Type} (exchanges : List Exchange) (outcome : Except Error Result) : Prop :=
  statements exchanges = [] ∧ ∃ error, outcome = .error error

/-! ### Changing -/

/-- The fields that changes can set, with the values given for them: keys are left out, and so
are names that no field answers to. -/
def settable (model : Model) (entries : List (String × Value)) : List (Field × Value) :=
  entries.filterMap fun (name, value) =>
    (model.resolve? name).bind fun field =>
      if field.isPrimaryKey then none else some (field, value)

/-- A field can be set to a value if an entry names the field, which is no key, and gives the
value. -/
theorem mem_settable_iff {entries : List (String × Value)} {given : Field × Value} :
    given ∈ settable model entries ↔ ∃ entry ∈ entries,
      model.resolve? entry.1 = some given.1 ∧ given.1.isPrimaryKey = false ∧ given.2 = entry.2 := by
  rw [settable, List.mem_filterMap]
  refine exists_congr fun entry => and_congr_right fun _ => ?_
  rw [Option.bind_eq_some_iff]
  constructor
  · rintro ⟨field, resolved, kept⟩
    split at kept
    · cases kept
    · rename_i notKey
      cases kept
      exact ⟨resolved, Bool.eq_false_iff.mpr notKey, rfl⟩
  · obtain ⟨field, value⟩ := given
    rintro ⟨resolved, notKey, rfl⟩
    exact ⟨field, resolved, if_neg (Bool.eq_false_iff.mp notKey)⟩

/-- A field that changes can set is a field of the model and not a key. -/
theorem mem_of_settable {entries : List (String × Value)} {given : Field × Value}
    (listed : given ∈ settable model entries) :
    given.1 ∈ model.fields ∧ given.1.isPrimaryKey = false := by
  obtain ⟨entry, -, resolved, notKey, -⟩ := mem_settable_iff.mp listed
  exact ⟨Model.mem_of_resolve? resolved, notKey⟩

/-- An assignment is what a field and a value given for it come to. -/
def Assigns (given : Field × Value) (assigned : Assignment) : Prop :=
  assigned.1 = given.1 ∧ coerceOperand given.1.kind given.2 = .ok assigned.2

section

variable {entries : List (String × Value)} {assigned : List Assignment}
  (assigns : List.Forall₂ Assigns (settable model entries) assigned)

include assigns

/-- What is assigned to a field comes from an entry that names it, and the field is no key. -/
theorem exists_entry_of_assigns {each : Assignment} (member : each ∈ assigned) :
    ∃ entry ∈ entries, model.resolve? entry.1 = some each.1 ∧ each.1.isPrimaryKey = false := by
  obtain ⟨given, listed, same, -⟩ := Outcome.exists_of_forall₂ assigns member
  obtain ⟨entry, entryListed, resolved, notKey, -⟩ := mem_settable_iff.mp listed
  rw [same]
  exact ⟨entry, entryListed, resolved, notKey⟩

/-- What changes assign to is fields of the model. -/
theorem mem_of_assigns : ∀ each ∈ assigned, each.1 ∈ model.fields := by
  intro each member
  obtain ⟨entry, -, resolved, -⟩ := exists_entry_of_assigns assigns member
  exact Model.mem_of_resolve? resolved

end

/-- Collecting assignments sends nothing and leaves the record alone; where it succeeds, every
name belongs to a field and each settable field is assigned its value. -/
theorem runs_assignments {entries : List (String × Value)}
    {outcome : Except Error (List Assignment)}
    (runs : Runs (assignments model entries) record exchanges outcome after) :
    (∀ exchange ∈ exchanges, ∃ entry, exchange = .reported entry) ∧ after = record ∧
      ∀ assigned, outcome = .ok assigned →
        List.Forall₂ Assigns (settable model entries) assigned := by
  induction entries generalizing exchanges outcome after with
  | nil =>
    obtain ⟨rfl, rfl, rfl⟩ := runs_pure.mp runs
    refine ⟨fun _ member => (by cases member), rfl, fun assigned equal => ?_⟩
    cases equal
    exact .nil
  | cons entry rest inductionHypothesis =>
    obtain ⟨name, value⟩ := entry
    unfold assignments at runs
    cases resolved : model.resolve? name with
    | none =>
      simp only [resolved] at runs
      obtain ⟨rfl, rfl, rfl⟩ := runs_fail.mp runs
      exact ⟨fun _ member => (by cases member), rfl, fun assigned equal => by cases equal⟩
    | some field =>
      simp only [resolved] at runs
      by_cases isKey : field.isPrimaryKey = true
      · have skipped : settable model ((name, value) :: rest) = settable model rest := by
          simp [settable, resolved, isKey]
        rw [if_pos isKey] at runs
        rcases runs_bind.mp runs with ⟨error, failed, -⟩ |
          ⟨opening, _, middle, closing, rfl, reported, later⟩
        · obtain ⟨-, equal, -⟩ := runs_report.mp failed
          cases equal
        · obtain ⟨rfl, -, rfl⟩ := runs_report.mp reported
          obtain ⟨quiet, kept, assigns⟩ := inductionHypothesis later
          refine ⟨fun exchange member => ?_, kept, by rw [skipped]; exact assigns⟩
          rcases List.mem_append.mp member with head | tail
          · exact ⟨_, List.mem_singleton.mp head⟩
          · exact quiet exchange tail
      · have included : settable model ((name, value) :: rest) =
            (field, value) :: settable model rest := by
          simp [settable, resolved, isKey]
        rw [if_neg isKey] at runs
        rcases runs_ofExcept_bind.mp runs with ⟨error, -, rfl, rfl, rfl⟩ |
          ⟨operand, coerced, later⟩
        · exact ⟨fun _ member => (by cases member), rfl, fun assigned equal => by cases equal⟩
        · rcases runs_bind.mp later with ⟨error, failed, rfl⟩ |
            ⟨opening, found, middle, closing, rfl, collected, finished⟩
          · obtain ⟨quiet, kept, -⟩ := inductionHypothesis failed
            exact ⟨quiet, kept, fun assigned equal => by cases equal⟩
          · obtain ⟨quiet, rfl, assigns⟩ := inductionHypothesis collected
            obtain ⟨rfl, rfl, rfl⟩ := runs_pure.mp finished
            rw [List.append_nil]
            refine ⟨quiet, rfl, fun assigned equal => ?_⟩
            cases equal
            rw [included]
            exact .cons ⟨rfl, coerced⟩ (assigns found rfl)

theorem isSilent_assignments (entries : List (String × Value)) :
    IsSilent (assignments model entries) :=
  fun _ _ _ _ runs => statements_of_reported (runs_assignments runs).1

/-- Overwriting a field asks for nothing. It stores the value in the record, or fails and leaves the
record alone. -/
theorem runs_overwrite {type : RecordType} {field : Field} {value : Value}
    {outcome : Except Error Unit} :
    Runs (overwrite type field value) record exchanges outcome after ↔
      exchanges = [] ∧
        ((∃ error, type.setValue record field.name value = .error error ∧
            outcome = .error error ∧ after = record) ∨
          (type.setValue record field.name value = .ok after ∧ outcome = .ok ())) := by
  unfold overwrite
  rw [runs_held_bind, runs_ofExcept_bind]
  constructor
  · rintro (⟨error, refused, rfl, rfl, rfl⟩ | ⟨written, stored, held⟩)
    · exact ⟨rfl, .inl ⟨error, refused, rfl, rfl⟩⟩
    · obtain ⟨rfl, rfl, rfl⟩ := runs_pure.mp (runs_hold_bind.mp held)
      exact ⟨rfl, .inr ⟨stored, rfl⟩⟩
  · rintro ⟨rfl, ⟨error, refused, rfl, rfl⟩ | ⟨stored, rfl⟩⟩
    · exact .inl ⟨error, refused, rfl, rfl, rfl⟩
    · exact .inr ⟨after, stored, runs_pure.mpr ⟨rfl, rfl, rfl⟩⟩

theorem isSilent_overwrite (type : RecordType) (field : Field) (value : Value) :
    IsSilent (overwrite type field value) := by
  intro held exchanges outcome after runs
  rw [(runs_overwrite.mp runs).1, statements_nil]

theorem isSilent_writeAssignments (type : RecordType) (assigned : List Assignment) :
    IsSilent (writeAssignments type assigned) := by
  induction assigned with
  | nil => exact isSilent_pure ()
  | cons assignment rest inductionHypothesis =>
    exact (isSilent_overwrite type assignment.1 assignment.2).bind fun _ => inductionHypothesis

/-- A change sends nothing and fails, or it sends the one statement that the keys of the record as
it was and the changes as the hook leaves them make. -/
theorem runs_updates {changes : Changes} {outcome : Except Error Outcome}
    (runs : Runs (query.updates changes) record exchanges outcome after) :
    Declines exchanges outcome ∨
      ∃ model keys assigned statement, query.prepare = .ok model ∧
        changeFilters model record = .ok keys ∧
        List.Forall₂ Assigns
          (settable model (changesLeft .beforeUpdate changes exchanges).entries) assigned ∧
        updateStatement model query.dialect assigned (keys ++ query.filters) = .ok statement ∧
        statements exchanges = [statement] := by
  rcases runs_ofExcept_bind.mp runs with ⟨error, -, rfl, rfl, -⟩ | ⟨model, prepared, keyed⟩
  · exact .inl ⟨rfl, error, rfl⟩
  rcases runs_ofExcept_bind.mp (runs_held_bind.mp keyed) with
    ⟨error, -, rfl, rfl, -⟩ | ⟨keys, pinned, hooked⟩
  · exact .inl ⟨rfl, error, rfl⟩
  rcases runs_bind.mp hooked with ⟨error, failed, rfl⟩ |
    ⟨opening, left, middle, closing, rfl, called, collected⟩
  · exact .inl ⟨Hook.isSilent_beforeChanges _ _ _ _ _ failed, error, rfl⟩
  have silent := Hook.isSilent_beforeChanges _ _ _ _ _ called
  rcases runs_bind.mp collected with ⟨error, failed, rfl⟩ |
    ⟨reports, assigned, held, sending, rfl, assigning, built⟩
  · obtain ⟨reported, -⟩ := runs_assignments failed
    exact .inl ⟨by rw [statements_append, silent, statements_of_reported reported]; rfl, error, rfl⟩
  obtain ⟨reported, -, assigns⟩ := runs_assignments assigning
  have unsent : statements (opening ++ reports) = [] := by
    rw [statements_append, silent, statements_of_reported reported]
    rfl
  by_cases nothing : assigned.isEmpty = true
  · simp only [nothing, if_true] at built
    rcases runs_bind.mp built with ⟨error, failed, rfl⟩ | ⟨_, _, _, _, rfl, failed, -⟩
    · obtain ⟨rfl, -, -⟩ := runs_fail.mp failed
      exact .inl ⟨by rw [List.append_nil, unsent], error, rfl⟩
    · obtain ⟨-, equal, -⟩ := runs_fail.mp failed
      cases equal
  · simp only [nothing, Bool.false_eq_true, if_false] at built
    rcases runs_ofExcept_bind.mp built with ⟨error, -, rfl, rfl, -⟩ | ⟨statement, written, sent⟩
    · exact .inl ⟨by rw [List.append_nil, unsent], error, rfl⟩
    · obtain ⟨first, rest, rfl, begun⟩ :=
        (beginsWith_execute statement "updates" model.name).bind _ _ _ _ sent
      have uncalled : openingReturn? .beforeUpdate (reports ++ first :: rest) = none :=
        openingReturn?_append_of_reported reported (openingReturn?_of_sent begun)
      refine .inr ⟨model, keys, assigned, statement, prepared, pinned, ?_, written, ?_⟩
      · rw [Hook.changesLeft_of_runs called uncalled]
        exact assigns assigned rfl
      · rw [← List.append_assoc, statements_append, unsent]
        refine (sends_execute statement "updates" model.name).bind (fun answer => ?_) _ _ _ _ sent
        split
        · exact (isSilent_writeAssignments _ _).bind fun _ =>
            (Hook.isSilent_after _).bind fun _ => isSilent_pure answer
        · exact (Hook.isSilent_after _).bind fun _ => isSilent_pure answer

/-! ### Deleting -/

/-- A deletion sends nothing and fails, or it sends the one statement that the keys of the record
as it was make. -/
theorem runs_delete {outcome : Except Error Outcome}
    (runs : Runs query.delete record exchanges outcome after) :
    Declines exchanges outcome ∨
      ∃ model keys statement, query.prepare = .ok model ∧ deleteFilters model record = .ok keys ∧
        deleteStatement model query.dialect (keys ++ query.filters) = .ok statement ∧
        statements exchanges = [statement] := by
  rcases runs_ofExcept_bind.mp runs with ⟨error, -, rfl, rfl, -⟩ | ⟨model, prepared, keyed⟩
  · exact .inl ⟨rfl, error, rfl⟩
  rcases runs_ofExcept_bind.mp (runs_held_bind.mp keyed) with
    ⟨error, -, rfl, rfl, -⟩ | ⟨keys, pinned, hooked⟩
  · exact .inl ⟨rfl, error, rfl⟩
  rcases runs_bind.mp hooked with ⟨error, failed, rfl⟩ |
    ⟨opening, _, middle, closing, rfl, called, built⟩
  · exact .inl ⟨Hook.isSilent_before _ _ _ _ failed, error, rfl⟩
  have silent := Hook.isSilent_before _ _ _ _ called
  rcases runs_ofExcept_bind.mp built with ⟨error, -, rfl, rfl, -⟩ | ⟨statement, written, sent⟩
  · exact .inl ⟨by rw [List.append_nil, silent], error, rfl⟩
  · refine .inr ⟨model, keys, statement, prepared, pinned, written, ?_⟩
    rw [statements_append, silent]
    exact (sends_execute statement "delete" model.name).bind
      (fun answer => (Hook.isSilent_after _).bind fun _ => isSilent_pure answer) _ _ _ _ sent

/-! ### Reading -/

section

variable {Held : Type} {held left : Held}

theorem isSilent_load (row : Row) : IsSilent (query.load model row : Operation Held Record) :=
  (isSilent_ofExcept _).bind fun record => Hook.isSilent_afterOn none record

theorem sends_loadOne (name : String) (statement : Statement) :
    Sends (query.loadOne model name statement : Operation Held Record) [statement] := by
  refine (sends_fetchFirst statement name model.name).bind fun found => ?_
  cases found with
  | none => exact isSilent_fail _
  | some row => exact isSilent_load row

theorem isSilent_loadEach (rows : List Row) : IsSilent (query.loadEach model rows) := by
  induction rows with
  | nil => exact isSilent_pure ()
  | cons row rest inductionHypothesis =>
    exact (isSilent_load row).bind fun record =>
      isSilent_held_bind fun loaded => isSilent_hold_bind inductionHypothesis

/-- What is sent after a statement has been built, if it can be built. -/
theorem statements_of_built {Result : Type} {given : Except Error Statement}
    {next : Statement → Operation Held Result} {outcome : Except Error Result}
    (sends : ∀ statement, Sends (next statement) [statement])
    (runs : Runs (ofExcept given >>= next) held exchanges outcome left) :
    Declines exchanges outcome ∨
      ∃ statement, given = .ok statement ∧ statements exchanges = [statement] := by
  rcases runs_ofExcept_bind.mp runs with ⟨error, -, rfl, rfl, -⟩ | ⟨statement, built, sent⟩
  · exact .inl ⟨rfl, error, rfl⟩
  · exact .inr ⟨statement, built, sends statement _ _ _ _ sent⟩

/-- Nothing is sent in failing, or the one statement that is built for the model of a query. -/
def SendsBuilt {Result : Type} (query : Query) (build : Model → Except Error Statement)
    (exchanges : List Exchange) (outcome : Except Error Result) : Prop :=
  Declines exchanges outcome ∨ ∃ model statement, query.prepare = .ok model ∧
    build model = .ok statement ∧ statements exchanges = [statement]

/-- What is sent after a query has been prepared and a statement built for its model. -/
theorem sendsBuilt_of_runs {Result : Type} {build : Model → Except Error Statement}
    {next : Model → Statement → Operation Held Result} {outcome : Except Error Result}
    (sends : ∀ model statement, Sends (next model statement) [statement])
    (runs : Runs (ofExcept query.prepare >>= fun model => ofExcept (build model) >>= next model)
      held exchanges outcome left) : SendsBuilt query build exchanges outcome := by
  rcases runs_ofExcept_bind.mp runs with ⟨error, -, rfl, rfl, -⟩ | ⟨model, prepared, found⟩
  · exact .inl ⟨rfl, error, rfl⟩
  rcases statements_of_built (sends model) found with declines | ⟨statement, built, sent⟩
  · exact .inl declines
  · exact .inr ⟨model, statement, prepared, built, sent⟩

/-- Once a query can be prepared and a statement built for its model, the statement is sent. -/
theorem sends_of_built {Result : Type} (build : Model → Except Error Statement)
    {next : Model → Statement → Operation Held Result} {statement : Statement}
    (prepared : query.prepare = .ok model) (built : build model = .ok statement)
    (sends : Sends (next model statement) [statement]) :
    Sends (ofExcept query.prepare >>= fun model => ofExcept (build model) >>= next model)
      [statement] := by
  intro held exchanges outcome after runs
  rcases runs_ofExcept_bind.mp runs with ⟨error, refused, -⟩ | ⟨other, again, found⟩
  · rw [prepared] at refused
    cases refused
  rw [prepared] at again
  cases again
  rcases runs_ofExcept_bind.mp found with ⟨error, refused, -⟩ | ⟨other, again, sent⟩
  · rw [built] at refused
    cases refused
  rw [built] at again
  cases again
  exact sends _ _ _ _ sent

theorem runs_findById {key : Value} {outcome : Except Error Record}
    (runs : Runs (query.findById key) held exchanges outcome left) :
    Declines exchanges outcome ∨ ∃ model field statement, query.prepare = .ok model ∧
      model.soleKey? = some field ∧
      selectStatement model query.dialect (query.filters ++ [.compare .equal field.column key])
        query.order (some 1) none = .ok statement ∧ statements exchanges = [statement] := by
  rcases runs_ofExcept_bind.mp runs with ⟨error, -, rfl, rfl, -⟩ | ⟨model, prepared, found⟩
  · exact .inl ⟨rfl, error, rfl⟩
  cases keyed : model.soleKey? with
  | none =>
    rw [keyed] at found
    obtain ⟨rfl, rfl, -⟩ := runs_fail.mp found
    exact .inl ⟨rfl, _, rfl⟩
  | some field =>
    rw [keyed] at found
    rcases statements_of_built (sends_loadOne "find_by_id") found with
      declines | ⟨statement, built, sent⟩
    · exact .inl declines
    · exact .inr ⟨model, field, statement, prepared, keyed, built, sent⟩

theorem runs_first {outcome : Except Error Record}
    (runs : Runs query.first held exchanges outcome left) :
    SendsBuilt query (fun model => selectStatement model query.dialect query.filters
      (query.firstOrder model) (some 1) query.offset) exchanges outcome :=
  sendsBuilt_of_runs (fun _ => sends_loadOne "first") runs

theorem sends_fetching (model : Model) (statement : Statement) :
    Sends ((fetchAll statement).during "find" model.name >>= query.loadEach model) [statement] :=
  (sends_fetchAll statement "find" model.name).bind isSilent_loadEach

theorem runs_find {records loaded : List Record} {outcome : Except Error Unit}
    (runs : Runs query.find records exchanges outcome loaded) :
    SendsBuilt query (fun model => selectStatement model query.dialect query.filters query.order
      query.limit query.offset) exchanges outcome :=
  sendsBuilt_of_runs sends_fetching (runs_hold_bind.mp runs)

theorem sends_find {statement : Statement} (prepared : query.prepare = .ok model)
    (built : selectStatement model query.dialect query.filters query.order query.limit
      query.offset = .ok statement) : Sends query.find [statement] :=
  fun _ _ _ _ runs => sends_of_built (fun model => selectStatement model query.dialect
    query.filters query.order query.limit query.offset) prepared built
    (sends_fetching model statement) _ _ _ _ (runs_hold_bind.mp runs)

/-- Answering all records that match is a search for a list of the operation's own. -/
theorem find_of_runs_scan {outcome : Except Error (List Record)}
    (runs : Runs query.scan held exchanges outcome left) :
    ∃ found records, Runs query.find [] exchanges found records ∧
      outcome = found.map fun _ => records := by
  rcases runs_bind.mp runs with ⟨error, failed, -⟩ |
    ⟨opening, ⟨found, records⟩, middle, closing, rfl, within, finished⟩
  · obtain ⟨inner, equal, -⟩ := runs_within.mp failed
    cases equal
  · obtain ⟨_, equal, -, searched⟩ := runs_within.mp within
    cases equal
    obtain ⟨rfl, rfl, -⟩ := runs_ofExcept.mp finished
    rw [List.append_nil]
    exact ⟨found, records, searched, rfl⟩

theorem runs_scan {outcome : Except Error (List Record)}
    (runs : Runs query.scan held exchanges outcome left) :
    SendsBuilt query (fun model => selectStatement model query.dialect query.filters query.order
      query.limit query.offset) exchanges outcome := by
  obtain ⟨found, records, searched, rfl⟩ := find_of_runs_scan runs
  rcases runs_find searched with ⟨silent, error, rfl⟩ | sent
  · exact .inl ⟨silent, error, rfl⟩
  · exact .inr sent

theorem sends_scan {statement : Statement} (prepared : query.prepare = .ok model)
    (built : selectStatement model query.dialect query.filters query.order query.limit
      query.offset = .ok statement) :
    Sends (query.scan : Operation Held (List Record)) [statement] := by
  intro held exchanges outcome after runs
  obtain ⟨found, records, searched, -⟩ := find_of_runs_scan runs
  exact sends_find prepared built _ _ _ _ searched

/-- Making a number of the row of a count asks for nothing. -/
theorem isSilent_counted (found : Option Row) :
    IsSilent (match found with
      | some row => ofExcept (countOfRow row)
      | none => return 0 : Operation Held Int64) := by
  cases found with
  | none => exact isSilent_pure 0
  | some row => exact isSilent_ofExcept _

theorem runs_count {outcome : Except Error Int64}
    (runs : Runs query.count held exchanges outcome left) :
    SendsBuilt query (fun model => countStatement model query.dialect query.filters) exchanges
      outcome :=
  sendsBuilt_of_runs (fun model statement =>
    (sends_fetchFirst statement "count" model.name).bind isSilent_counted) runs

theorem sends_count {statement : Statement} (prepared : query.prepare = .ok model)
    (built : countStatement model query.dialect query.filters = .ok statement) :
    Sends (query.count : Operation Held Int64) [statement] :=
  sends_of_built (fun model => countStatement model query.dialect query.filters) prepared built
    ((sends_fetchFirst statement "count" model.name).bind isSilent_counted)

end

/-! ### A query to look at -/

/-- A record type with two keys. -/
def seat : RecordType where
  identity := 0
  name := "Seat"
  table := none
  fields := [⟨"row", .untyped .int false, "primaryKey"⟩,
    ⟨"number", .untyped .int false, "primaryKey"⟩, ⟨"guest", .untyped .text true, ""⟩]
  hooks := []
  answers := []

/-- The query on the seats that nobody has taken. -/
def freeSeats : Query where
  dialect := .postgres
  type := seat
  model := (Schema.resolve .snakeCasePlural seat.descriptor).2
  filters := [.absent false "guest"]

end Query

end RecordMapper
