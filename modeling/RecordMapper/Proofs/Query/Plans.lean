/-
This file collects the uses that can be made of a query and says what each of them sends. A plan is
what goes into one of the five functions that build statements; a use comes to one plan, or to two
if it reads back what it inserted or counts before it reads a page. Whatever a use sends in any
environment is the statement of one of its plans, so that what holds of the statements of all
plans holds of everything that is ever sent.
-/

import RecordMapper.Proofs.Query.Inserting

namespace RecordMapper

open Operation

/-! ### Plans -/

/-- What a statement is built from, beside the model and the dialect. -/
inductive Plan
  | insert (record : Record) (returning : Option String)
  | select (filters : List Filter) (order : List String) (limit offset : Option Nat)
  | count (filters : List Filter)
  | update (assigned : List Assignment) (filters : List Filter)
  | delete (filters : List Filter)

/-- The statement of a plan, if it can be built. -/
def Plan.statement (model : Model) (dialect : Dialect) : Plan → Except Error Statement
  | .insert record returning => insertStatement model dialect record returning
  | .select filters order limit offset => selectStatement model dialect filters order limit offset
  | .count filters => countStatement model dialect filters
  | .update assigned filters => updateStatement model dialect assigned filters
  | .delete filters => deleteStatement model dialect filters

namespace Query

/-! ### Uses -/

/-- A use that is made of a query. -/
inductive Use
  | create (record : Record)
  | findById (key : Value)
  | first
  | find (records : List Record)
  | scan
  | count
  | updates (record : Record) (changes : Changes)
  | delete (record : Record)
  | paginate (page : Page)

/-- What a use of a query and an environment say to each other. -/
def Use.exchanges {State : Type} (environment : Environment State) (state : State) (query : Query) :
    Use → List Exchange
  | .create record => (query.create record).exchanges environment state
  | .findById key => ((query.findById key : Operation Unit Record) ()).exchanges environment state
  | .first => ((query.first : Operation Unit Record) ()).exchanges environment state
  | .find records => (query.find records).exchanges environment state
  | .scan => ((query.scan : Operation Unit _) ()).exchanges environment state
  | .count => ((query.count : Operation Unit _) ()).exchanges environment state
  | .updates record changes => (query.updates changes record).exchanges environment state
  | .delete record => (query.delete record).exchanges environment state
  | .paginate page => ((page.load query : Operation Unit _) ()).exchanges environment state

/-- A use of a query comes to a plan at a place among those that it carries out, given what has
been said between it and the environment. -/
inductive Plans (query : Query) (model : Model) (exchanges : List Exchange) :
    Use → Nat → Plan → Prop
  | create (record : Record) : Plans query model exchanges (.create record) 0
      (.insert (recordLeft .beforeCreate record exchanges) (query.returning? model))
  | readBack (record : Record) {saved : Record} {filters : List Filter}
      (known : keyFilters? model saved = some filters) :
      Plans query model exchanges (.create record) 1 (.select filters [] (some 1) none)
  | findById (key : Value) {field : Field} (keyed : model.soleKey? = some field) :
      Plans query model exchanges (.findById key) 0
        (.select (query.filters ++ [.compare .equal field.column key]) query.order (some 1) none)
  | first : Plans query model exchanges .first 0
      (.select query.filters (query.firstOrder model) (some 1) query.offset)
  | find (records : List Record) : Plans query model exchanges (.find records) 0
      (.select query.filters query.order query.limit query.offset)
  | scan : Plans query model exchanges .scan 0
      (.select query.filters query.order query.limit query.offset)
  | count : Plans query model exchanges .count 0 (.count query.filters)
  | updates (record : Record) (changes : Changes) {keys : List Filter}
      {assigned : List Assignment} (pinned : changeFilters model record = .ok keys)
      (assigns : List.Forall₂ Assigns
        (settable model (changesLeft .beforeUpdate changes exchanges).entries) assigned) :
      Plans query model exchanges (.updates record changes) 0
        (.update assigned (keys ++ query.filters))
  | delete (record : Record) {keys : List Filter} (pinned : deleteFilters model record = .ok keys) :
      Plans query model exchanges (.delete record) 0 (.delete (keys ++ query.filters))
  | total (page : Page) : Plans query model exchanges (.paginate page) 0 (.count query.filters)
  | page (page : Page) : Plans query model exchanges (.paginate page) 1
      (.select query.filters query.order (page.apply query).limit (page.apply query).offset)

variable {query : Query}

/-- Reading a page sends what counting sends, and then perhaps what reading its rows sends. -/
theorem runs_page {Held : Type} {page : Page} {held left : Held} {exchanges : List Exchange}
    {outcome : Except Error PageContent}
    (runs : Runs (page.load query) held exchanges outcome left) :
    Declines exchanges outcome ∨ ∃ model total, query.prepare = .ok model ∧
      countStatement model query.dialect query.filters = .ok total ∧
      (statements exchanges = [total] ∨ ∃ rows,
        selectStatement model query.dialect query.filters query.order (page.apply query).limit
          (page.apply query).offset = .ok rows ∧ statements exchanges = [total, rows]) := by
  rcases runs_bind.mp runs with ⟨error, failed, rfl⟩ |
    ⟨opening, number, middle, closing, rfl, counted, loaded⟩
  · rcases runs_count failed with ⟨silent, -⟩ | ⟨model, total, prepared, built, sent⟩
    · exact .inl ⟨silent, error, rfl⟩
    · exact .inr ⟨model, total, prepared, built, .inl sent⟩
  · rcases runs_count counted with ⟨-, error, equal⟩ | ⟨model, total, prepared, built, sent⟩
    · cases equal
    refine .inr ⟨model, total, prepared, built, ?_⟩
    obtain ⟨reading, answer, after, read, same⟩ :=
      statements_of_bind (fun _ => isSilent_pure _) loaded
    rw [statements_append, same, sent]
    rcases runs_scan read with ⟨silent, -⟩ | ⟨other, rows, again, selected, sentRows⟩
    · exact .inl (by rw [silent, List.append_nil])
    · have known : other = model := by
        have prepares : query.prepare = .ok other := again
        rw [prepared] at prepares
        cases prepares
        rfl
      subst known
      exact .inr ⟨rows, selected, by rw [sentRows]; rfl⟩

section

variable {Result : Type} {exchanges : List Exchange} {outcome : Except Error Result}
  {statement only next : Statement} {place : Nat}

/-- An operation that declines has no statement at any place. -/
theorem Declines.getElem? (declines : Declines exchanges outcome) :
    (statements exchanges)[place]? ≠ some statement := by
  rw [declines.1]
  exact nofun

theorem place_of_one (one : statements exchanges = [only])
    (sent : (statements exchanges)[place]? = some statement) : place = 0 ∧ only = statement := by
  rw [one] at sent
  cases place with
  | zero => exact ⟨rfl, Option.some.inj sent⟩
  | succ place => cases sent

/-- Where one statement is built at most, whatever is sent is that one. -/
theorem SendsBuilt.of_getElem? {build : Model → Except Error Statement}
    (sends : SendsBuilt query build exchanges outcome)
    (sent : (statements exchanges)[place]? = some statement) :
    place = 0 ∧ ∃ model, query.prepare = .ok model ∧ build model = .ok statement := by
  rcases sends with declines | ⟨model, only, prepared, built, one⟩
  · exact absurd sent declines.getElem?
  · obtain ⟨rfl, rfl⟩ := place_of_one one sent
    exact ⟨rfl, model, prepared, built⟩

theorem place_of_two (two : statements exchanges = [only, next])
    (sent : (statements exchanges)[place]? = some statement) :
    (place = 0 ∧ only = statement) ∨ (place = 1 ∧ next = statement) := by
  rw [two] at sent
  match place, sent with
  | 0, sent => exact .inl ⟨rfl, Option.some.inj sent⟩
  | 1, sent => exact .inr ⟨rfl, Option.some.inj sent⟩

end

/-- Whatever a use of a query sends is the statement of a plan that the use comes to. -/
theorem Use.plans {State : Type} (environment : Environment State) (state : State) (use : Use)
    {place : Nat} {statement : Statement}
    (sent : (statements (use.exchanges environment state query))[place]? = some statement) :
    ∃ model plan, query.prepare = .ok model ∧
      Plans query model (use.exchanges environment state query) use place plan ∧
      plan.statement model query.dialect = .ok statement := by
  cases use with
  | create record =>
    rcases runs_create (Program.runs_exchanges environment _ state) with
      declines | ⟨model, inserted, prepared, built,
        one | ⟨saved, filters, read, known, selected, two⟩⟩
    · exact absurd sent declines.getElem?
    · obtain ⟨rfl, rfl⟩ := place_of_one one sent
      exact ⟨model, _, prepared, .create record, built⟩
    · rcases place_of_two two sent with ⟨rfl, rfl⟩ | ⟨rfl, rfl⟩
      · exact ⟨model, _, prepared, .create record, built⟩
      · exact ⟨model, _, prepared, .readBack record known, selected⟩
  | findById key =>
    rcases runs_findById (Program.runs_exchanges environment _ state) with
      declines | ⟨model, field, found, prepared, keyed, built, one⟩
    · exact absurd sent declines.getElem?
    · obtain ⟨rfl, rfl⟩ := place_of_one one sent
      exact ⟨model, _, prepared, .findById key keyed, built⟩
  | first =>
    obtain ⟨rfl, model, prepared, built⟩ :=
      (runs_first (Program.runs_exchanges environment _ state)).of_getElem? sent
    exact ⟨model, _, prepared, .first, built⟩
  | find records =>
    obtain ⟨rfl, model, prepared, built⟩ :=
      (runs_find (Program.runs_exchanges environment _ state)).of_getElem? sent
    exact ⟨model, _, prepared, .find records, built⟩
  | scan =>
    obtain ⟨rfl, model, prepared, built⟩ :=
      (runs_scan (Program.runs_exchanges environment _ state)).of_getElem? sent
    exact ⟨model, _, prepared, .scan, built⟩
  | count =>
    obtain ⟨rfl, model, prepared, built⟩ :=
      (runs_count (Program.runs_exchanges environment _ state)).of_getElem? sent
    exact ⟨model, _, prepared, .count, built⟩
  | updates record changes =>
    rcases runs_updates (Program.runs_exchanges environment _ state) with
      declines | ⟨model, keys, assigned, changed, prepared, pinned, assigns, built, one⟩
    · exact absurd sent declines.getElem?
    · obtain ⟨rfl, rfl⟩ := place_of_one one sent
      exact ⟨model, _, prepared, .updates record changes pinned assigns, built⟩
  | delete record =>
    rcases runs_delete (Program.runs_exchanges environment _ state) with
      declines | ⟨model, keys, deleted, prepared, pinned, built, one⟩
    · exact absurd sent declines.getElem?
    · obtain ⟨rfl, rfl⟩ := place_of_one one sent
      exact ⟨model, _, prepared, .delete record pinned, built⟩
  | paginate page =>
    rcases runs_page (Program.runs_exchanges environment _ state) with
      declines | ⟨model, total, prepared, built, one | ⟨rows, selected, two⟩⟩
    · exact absurd sent declines.getElem?
    · obtain ⟨rfl, rfl⟩ := place_of_one one sent
      exact ⟨model, _, prepared, .total page, built⟩
    · rcases place_of_two two sent with ⟨rfl, rfl⟩ | ⟨rfl, rfl⟩
      · exact ⟨model, _, prepared, .total page, built⟩
      · exact ⟨model, _, prepared, .page page, selected⟩

end Query

end RecordMapper
