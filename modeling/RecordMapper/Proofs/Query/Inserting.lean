/-
This file follows an insertion through its steps. After the query has been prepared and the hook has
seen the record, the statement is built and sent. Its answer reports a generated key or not, the key
is written to the record if the record had none, and the record is read back if all of its keys are
known by then. Each step either goes on or ends the insertion, so the ways in which an insertion can
go are few, and what it sends and how it leaves the record can be read from them.
-/

import RecordMapper.Proofs.Query.HookCalls
import RecordMapper.Proofs.Query.Keys

namespace RecordMapper

open Operation

namespace Query

variable {query : Query} {model : Model} {record after : Record} {exchanges : List Exchange}

/-! ### Asking for the key -/

/-- The field whose generated value an insertion asks back for, if any. -/
def askedKey? (query : Query) (model : Model) : Option Field :=
  model.generatedKey?.filter fun _ => query.dialect.asksForKey

/-- The clause by which an insertion asks back for a generated key, if it does. -/
def returning? (query : Query) (model : Model) : Option String :=
  (query.askedKey? model).bind fun key => query.dialect.returning key.column

/-- A clause asks back a key that the database generates: the model has a single key, which is
generated, and the dialect has the clause for it. -/
def AsksBack (query : Query) (model : Model) (clause : String) : Prop :=
  ∃ key, model.primaryKeys = [key] ∧ key.isAutoIncrement = true ∧
    query.dialect.returning key.column = some clause

/-- The clause of an insertion is the one that asks back a generated key. -/
theorem returning?_eq_some {clause : String} :
    query.returning? model = some clause ↔ query.AsksBack model clause := by
  unfold returning? askedKey? AsksBack
  rw [Option.bind_eq_some_iff]
  refine exists_congr fun key => ?_
  rw [Option.filter_eq_some_iff, Model.generatedKey?_eq_some, Dialect.returning]
  constructor
  · rintro ⟨⟨⟨keys, generated⟩, asks⟩, clause⟩
    exact ⟨keys, generated, clause⟩
  · rintro ⟨keys, generated, clause⟩
    refine ⟨⟨⟨keys, generated⟩, ?_⟩, clause⟩
    by_contra silent
    rw [if_neg silent] at clause
    cases clause

/-! ### The statement and its answer -/

/-- How an insertion, by which a key is asked back or none, is answered, and its outcome. -/
inductive Inserts (model : Model) (statement : Statement) :
    Option Field → Exchange → Except Error Outcome → Prop
  | executed (answer : Except Error Outcome) :
      Inserts model statement none (.executed statement answer)
        (answer.mapError (Error.during "create" model.name))
  | failed (key : Field) (error : Error) :
      Inserts model statement (some key) (.fetchedFirst statement (.error error))
        (.error (error.during "create" model.name))
  | unreturned (key : Field) :
      Inserts model statement (some key) (.fetchedFirst statement (.ok none)) (.ok ⟨0, none⟩)
  | returned (key : Field) (row : Row) :
      Inserts model statement (some key) (.fetchedFirst statement (.ok (some row)))
        ((keyOfRow key row).map fun identifier => ⟨1, identifier⟩)

theorem Inserts.statement? {statement : Statement} {asked : Option Field} {answer : Exchange}
    {outcome : Except Error Outcome} (inserts : Inserts model statement asked answer outcome) :
    answer.statement? = some statement := by
  cases inserts <;> rfl

/-- Inserting is one exchange, after which the record is as it was. -/
theorem runs_insert {statement : Statement} {asked : Option Field}
    {outcome : Except Error Outcome}
    (runs : Runs (insert model statement asked) record exchanges outcome after) :
    after = record ∧
      ∃ answer, exchanges = [answer] ∧ Inserts model statement asked answer outcome := by
  cases asked with
  | none =>
    obtain ⟨answer, executed, rfl⟩ := runs_during.mp runs
    obtain ⟨rfl, rfl⟩ := runs_execute.mp executed
    exact ⟨rfl, _, rfl, .executed answer⟩
  | some key =>
    rcases runs_bind.mp runs with ⟨error, failed, rfl⟩ |
      ⟨opening, found, middle, closing, rfl, fetched, finished⟩
    · obtain ⟨answer, asking, equal⟩ := runs_during.mp failed
      obtain ⟨rfl, rfl⟩ := runs_fetchFirst.mp asking
      cases answer with
      | ok found => cases equal
      | error inner =>
        cases equal
        exact ⟨rfl, _, rfl, .failed key inner⟩
    · obtain ⟨answer, asking, equal⟩ := runs_during.mp fetched
      obtain ⟨rfl, rfl⟩ := runs_fetchFirst.mp asking
      cases answer with
      | error inner => cases equal
      | ok given =>
        cases equal
        cases found with
        | none =>
          obtain ⟨rfl, rfl, rfl⟩ := runs_pure.mp finished
          exact ⟨rfl, _, rfl, .unreturned key⟩
        | some row =>
          have returned : Inserts model statement (some key)
              (.fetchedFirst statement (.ok (some row)))
              ((keyOfRow key row).map fun identifier => ⟨1, identifier⟩) := .returned key row
          rcases runs_ofExcept_bind.mp finished with ⟨error, unread, rfl, rfl, rfl⟩ |
            ⟨identifier, read, ended⟩
          · rw [unread] at returned
            exact ⟨rfl, _, rfl, returned⟩
          · obtain ⟨rfl, rfl, rfl⟩ := runs_pure.mp ended
            rw [read] at returned
            exact ⟨rfl, _, rfl, returned⟩

/-! ### Writing the key back -/

/-- The database reports a key that it has generated, and the inserted record had none. -/
def ReportsKey (model : Model) (inserted : Record) (reported : Outcome) (key : Field)
    (identifier : Int64) : Prop :=
  model.generatedKey? = some key ∧ reported.lastInsertId = some identifier ∧ IsUnset inserted key

/-- A record is saved after an insertion: it is the inserted record, but for a generated key that is
reported to a record without one. -/
structure WritesBack (type : RecordType) (model : Model) (inserted : Record) (reported : Outcome)
    (saved : Record) : Prop where
  written : ∀ key identifier, ReportsKey model inserted reported key identifier →
    ∃ value, coerceOperand key.kind (.bigInt identifier) = .ok value ∧
      type.setValue inserted key.name value = .ok saved
  kept : (∀ key identifier, ¬ ReportsKey model inserted reported key identifier) → saved = inserted

/-- Where nothing is to be written back, the inserted record is saved as it is. -/
theorem writesBack_of_unreported {type : RecordType} {inserted : Record} {reported : Outcome}
    (unreported : ∀ key identifier, ¬ ReportsKey model inserted reported key identifier) :
    WritesBack type model inserted reported inserted :=
  ⟨fun key identifier reports => absurd reports (unreported key identifier), fun _ => rfl⟩

/-- A reported key is written back exactly if it can be stored in the field of the key. -/
theorem writesBack_iff {type : RecordType} {inserted saved : Record} {reported : Outcome}
    {key : Field} {identifier : Int64}
    (reports : ReportsKey model inserted reported key identifier) :
    WritesBack type model inserted reported saved ↔
      ∃ value, coerceOperand key.kind (.bigInt identifier) = .ok value ∧
        type.setValue inserted key.name value = .ok saved := by
  refine ⟨fun writes => writes.written key identifier reports, fun stored => ⟨?_, ?_⟩⟩
  · rintro other another ⟨generated, reported, -⟩
    cases generated.symm.trans reports.1
    cases reported.symm.trans reports.2.1
    exact stored
  · exact fun unreported => absurd reports (unreported key identifier)

theorem writeKey_of_unreported {inserted : Record} {reported : Outcome}
    (unreported : ∀ key identifier, ¬ ReportsKey model inserted reported key identifier) :
    query.writeKey model inserted reported = Pure.pure () := by
  unfold writeKey
  split
  · rename_i key identifier generated given
    exact if_neg fun unset => unreported key identifier ⟨generated, given, unset⟩
  · rfl

theorem writeKey_of_reports {inserted : Record} {reported : Outcome} {key : Field}
    {identifier : Int64} (reports : ReportsKey model inserted reported key identifier) :
    query.writeKey model inserted reported =
      (ofExcept (coerceOperand key.kind (.bigInt identifier)) >>= overwrite query.type key) := by
  obtain ⟨generated, given, unset⟩ := reports
  simp only [writeKey, generated, given]
  exact if_pos unset

/-- Writing a key back asks for nothing. It saves the record, or it fails where nothing can be saved
and leaves the record as it is. -/
theorem runs_writeKey {inserted : Record} {reported : Outcome} {outcome : Except Error Unit}
    (runs : Runs (query.writeKey model inserted reported) inserted exchanges outcome after) :
    exchanges = [] ∧
      ((∃ error, outcome = .error error ∧ after = inserted ∧
          ∀ saved, ¬ WritesBack query.type model inserted reported saved) ∨
        (outcome = .ok () ∧ WritesBack query.type model inserted reported after)) := by
  by_cases reports : ∃ key identifier, ReportsKey model inserted reported key identifier
  · obtain ⟨key, identifier, reports⟩ := reports
    rw [writeKey_of_reports reports] at runs
    simp only [writesBack_iff reports]
    rcases runs_ofExcept_bind.mp runs with ⟨error, refused, rfl, rfl, rfl⟩ |
      ⟨value, comes, overwritten⟩
    · refine ⟨rfl, .inl ⟨error, rfl, rfl, ?_⟩⟩
      rintro saved ⟨value, comes, -⟩
      cases refused.symm.trans comes
    · obtain ⟨rfl, ⟨error, refused, rfl, rfl⟩ | ⟨stored, rfl⟩⟩ := runs_overwrite.mp overwritten
      · refine ⟨rfl, .inl ⟨error, rfl, rfl, ?_⟩⟩
        rintro saved ⟨other, same, stored⟩
        cases comes.symm.trans same
        cases refused.symm.trans stored
      · exact ⟨rfl, .inr ⟨rfl, value, comes, stored⟩⟩
  · have unreported (key : Field) (identifier : Int64) :
        ¬ ReportsKey model inserted reported key identifier := fun each =>
      reports ⟨key, identifier, each⟩
    rw [writeKey_of_unreported unreported] at runs
    obtain ⟨rfl, rfl, rfl⟩ := runs_pure.mp runs
    exact ⟨rfl, .inr ⟨rfl, writesBack_of_unreported unreported⟩⟩

/-! ### Reading the record back -/

/-- Copying cells to a record asks for nothing. -/
theorem exchanges_of_copyCells {type : RecordType} {row : Row} {column : Nat} {fields : List Field}
    {outcome : Except Error Unit}
    (runs : Runs (copyCells type row column fields) record exchanges outcome after) :
    exchanges = [] := by
  induction fields generalizing column record exchanges with
  | nil => exact (runs_pure.mp runs).1
  | cons field rest inductionHypothesis =>
    rcases runs_ofExcept_bind.mp runs with ⟨error, -, rfl, -⟩ | ⟨value, -, copied⟩
    · rfl
    rcases runs_bind.mp copied with ⟨error, failed, -⟩ |
      ⟨opening, _, middle, closing, rfl, overwritten, later⟩
    · exact (runs_overwrite.mp failed).1
    · rw [(runs_overwrite.mp overwritten).1, inductionHypothesis later, List.append_nil]

/-- The statement by which a record is read back, if all of its keys are known and it can be
built. -/
def readBack? (query : Query) (model : Model) (saved : Record) : Option Statement :=
  (keyFilters? model saved).bind fun filters =>
    (selectStatement model query.dialect filters [] (some 1) none).toOption

/-- How a record that has been saved is read back, and how it is left. -/
inductive Reloads (query : Query) (model : Model) (saved : Record) :
    List Exchange → Except Error Unit → Record → Prop
  | unknown (entry : LogEntry) (keys : keyFilters? model saved = none) :
      Reloads query model saved [.reported entry] (.ok ()) saved
  | unbuilt {filters error} (keys : keyFilters? model saved = some filters)
      (unreadable : query.readBack? model saved = none) :
      Reloads query model saved [] (.error error) saved
  | failed {statement error refusal} (reads : query.readBack? model saved = some statement) :
      Reloads query model saved [.fetchedFirst statement (.error error)] (.error refusal) saved
  | missing {statement} (reads : query.readBack? model saved = some statement) :
      Reloads query model saved [.fetchedFirst statement (.ok none)] (.ok ()) saved
  | found {statement row outcome loaded} (reads : query.readBack? model saved = some statement) :
      Reloads query model saved [.fetchedFirst statement (.ok (some row))] outcome loaded

theorem reloads_of_runs {outcome : Except Error Unit}
    (runs : Runs (query.refresh model) record exchanges outcome after) :
    Reloads query model record exchanges outcome after := by
  have read := runs_held_bind.mp runs
  cases known : keyFilters? model record with
  | none =>
    rw [known] at read
    obtain ⟨rfl, rfl, rfl⟩ := runs_report.mp read
    exact .unknown _ known
  | some filters =>
    have selected : query.readBack? model record =
        (selectStatement model query.dialect filters [] (some 1) none).toOption := by
      rw [readBack?, known, Option.bind_some]
    rw [known] at read
    rcases runs_ofExcept_bind.mp read with ⟨error, failed, rfl, rfl, rfl⟩ | ⟨statement, built, sent⟩
    · rw [failed] at selected
      exact .unbuilt known selected
    rw [built] at selected
    rcases runs_bind.mp sent with ⟨error, failed, rfl⟩ |
      ⟨opening, found, middle, closing, rfl, fetched, copied⟩
    · obtain ⟨answer, asking, equal⟩ := runs_during.mp failed
      obtain ⟨rfl, rfl⟩ := runs_fetchFirst.mp asking
      cases answer with
      | ok found => cases equal
      | error inner => exact .failed selected
    · obtain ⟨answer, asking, equal⟩ := runs_during.mp fetched
      obtain ⟨rfl, rfl⟩ := runs_fetchFirst.mp asking
      cases answer with
      | error inner => cases equal
      | ok given =>
        cases equal
        cases found with
        | none =>
          obtain ⟨rfl, rfl, rfl⟩ := runs_pure.mp copied
          exact .missing selected
        | some row =>
          rw [exchanges_of_copyCells copied]
          exact .found selected

/-- Reading a record back sends nothing, or the one statement that the keys of the record make. -/
theorem Reloads.statements_eq {saved left : Record} {outcome : Except Error Unit}
    (reloads : Reloads query model saved exchanges outcome left) :
    statements exchanges = (query.readBack? model saved).toList := by
  cases reloads with
  | unknown entry keys =>
    rw [readBack?, keys]
    rfl
  | unbuilt keys unreadable =>
    rw [unreadable]
    rfl
  | failed reads | missing reads | found reads =>
    rw [reads]
    rfl

/-! ### The whole course -/

/-- An insertion gets as far as its statement, with the record that the hook leaves. -/
structure Readies (query : Query) (record : Record) (opening : List Exchange) (model : Model)
    (inserted : Record) (statement : Statement) : Prop where
  prepared : query.prepare = .ok model
  called : Runs (Hook.beforeCreate.before model query.type) record opening (.ok ()) inserted
  built : insertStatement model query.dialect inserted (query.returning? model) = .ok statement

/-- How an insertion can go, from the record that it is given, and how it leaves the record. -/
inductive Creates (query : Query) (record : Record) :
    List Exchange → Except Error Outcome → Record → Prop
  | unprepared {error} (refused : query.prepare = .error error) :
      Creates query record [] (.error error) record
  | stopped {model exchanges error left} (prepared : query.prepare = .ok model)
      (called : Runs (Hook.beforeCreate.before model query.type) record exchanges (.error error)
        left) :
      Creates query record exchanges (.error error) left
  | unbuilt {model exchanges inserted error} (prepared : query.prepare = .ok model)
      (called : Runs (Hook.beforeCreate.before model query.type) record exchanges (.ok ())
        inserted)
      (failed : insertStatement model query.dialect inserted (query.returning? model) =
        .error error) :
      Creates query record exchanges (.error error) inserted
  | refused {opening model inserted statement answer error}
      (readies : Readies query record opening model inserted statement)
      (inserts : Inserts model statement (query.askedKey? model) answer (.error error)) :
      Creates query record (opening ++ [answer]) (.error error) inserted
  | unsaved {opening model inserted statement answer reported error}
      (readies : Readies query record opening model inserted statement)
      (inserts : Inserts model statement (query.askedKey? model) answer (.ok reported))
      (unwritten : ∀ saved, ¬ WritesBack query.type model inserted reported saved) :
      Creates query record (opening ++ [answer]) (.error error) inserted
  | unread {opening model inserted statement answer reported saved reading error left}
      (readies : Readies query record opening model inserted statement)
      (inserts : Inserts model statement (query.askedKey? model) answer (.ok reported))
      (writes : WritesBack query.type model inserted reported saved)
      (reloads : Reloads query model saved reading (.error error) left) :
      Creates query record (opening ++ answer :: reading) (.error error) left
  | saved {opening model inserted statement answer reported saved reading loaded closing}
      (readies : Readies query record opening model inserted statement)
      (inserts : Inserts model statement (query.askedKey? model) answer (.ok reported))
      (writes : WritesBack query.type model inserted reported saved)
      (reloads : Reloads query model saved reading (.ok ()) loaded)
      (silent : statements closing = []) :
      Creates query record (opening ++ answer :: (reading ++ closing)) (.ok reported)
        (recordLeft .afterCreate loaded closing)

theorem creates_of_runs {outcome : Except Error Outcome}
    (runs : Runs query.create record exchanges outcome after) :
    Creates query record exchanges outcome after := by
  rcases runs_ofExcept_bind.mp runs with ⟨error, failed, rfl, rfl, rfl⟩ | ⟨model, prepared, hooked⟩
  · exact .unprepared failed
  rcases runs_bind.mp hooked with ⟨error, failed, rfl⟩ |
    ⟨opening, _, inserted, closing, rfl, called, built⟩
  · exact .stopped prepared failed
  rcases runs_ofExcept_bind.mp (runs_held_bind.mp built) with
    ⟨error, failed, rfl, rfl, rfl⟩ | ⟨statement, written, sent⟩
  · rw [List.append_nil]
    exact .unbuilt prepared called failed
  have readies : Readies query record opening model inserted statement :=
    ⟨prepared, called, written⟩
  rcases runs_bind.mp sent with ⟨error, failed, rfl⟩ |
    ⟨inserting, reported, held, later, rfl, answered, keyed⟩
  · obtain ⟨rfl, answer, rfl, inserts⟩ := runs_insert failed
    exact .refused readies inserts
  obtain ⟨rfl, answer, rfl, inserts⟩ := runs_insert answered
  rcases runs_bind.mp keyed with ⟨error, failed, rfl⟩ |
    ⟨writing, _, saved, last, rfl, wrote, refreshed⟩
  · obtain ⟨rfl, ⟨_, -, rfl, unwritten⟩ | ⟨equal, -⟩⟩ := runs_writeKey failed
    · exact .unsaved readies inserts unwritten
    · cases equal
  obtain ⟨rfl, ⟨_, equal, -⟩ | ⟨-, writes⟩⟩ := runs_writeKey wrote
  · cases equal
  rcases runs_bind.mp refreshed with ⟨error, failed, rfl⟩ |
    ⟨reading, _, loaded, finishing, rfl, read, hooked⟩
  · exact .unread readies inserts writes (reloads_of_runs failed)
  rcases runs_bind.mp hooked with ⟨error, failed, rfl⟩ |
    ⟨calling, _, left, rest, rfl, called, ended⟩
  · cases (Hook.runs_after failed).1
  obtain ⟨-, rfl, -⟩ := Hook.runs_after called
  obtain ⟨rfl, rfl, rfl⟩ := runs_pure.mp ended
  rw [List.append_nil]
  exact .saved readies inserts writes (reloads_of_runs read) (Hook.isSilent_after _ _ _ _ _ called)

section

variable {opening : List Exchange} {inserted : Record} {statement : Statement} {answer : Exchange}

/-- The statement of an insertion is the first that is sent. -/
theorem Readies.statements_append (readies : Readies query record opening model inserted statement)
    (sent : answer.statement? = some statement) (closing : List Exchange) :
    statements (opening ++ answer :: closing) = statement :: statements closing := by
  rw [RecordMapper.statements_append, Hook.isSilent_before _ _ _ _ readies.called, List.nil_append]
  exact List.filterMap_cons_some sent

/-- The record that is inserted is the one that the hook at the opening of the transcript leaves. -/
theorem Readies.recordLeft_eq (readies : Readies query record opening model inserted statement)
    (sent : answer.statement? = some statement) (closing : List Exchange) :
    recordLeft .beforeCreate record (opening ++ answer :: closing) = inserted :=
  Hook.recordLeft_of_runs readies.called (openingReturn?_of_sent sent)

theorem Readies.built_recordLeft (readies : Readies query record opening model inserted statement)
    (sent : answer.statement? = some statement) (closing : List Exchange) :
    insertStatement model query.dialect
      (recordLeft .beforeCreate record (opening ++ answer :: closing))
      (query.returning? model) = .ok statement := by
  rw [readies.recordLeft_eq sent closing]
  exact readies.built

/-- After the statement of an insertion the one that reads the record back is sent, if any. -/
theorem Readies.sends_of_reads (readies : Readies query record opening model inserted statement)
    (sent : answer.statement? = some statement) {closing : List Exchange} {saved : Record}
    (reads : statements closing = (query.readBack? model saved).toList) :
    statements (opening ++ answer :: closing) = [statement] ∨ ∃ saved filters readBack,
      keyFilters? model saved = some filters ∧
      selectStatement model query.dialect filters [] (some 1) none = .ok readBack ∧
      statements (opening ++ answer :: closing) = [statement, readBack] := by
  rw [readies.statements_append sent closing, reads]
  cases found : query.readBack? model saved with
  | none => exact .inl rfl
  | some readBack =>
    obtain ⟨filters, known, selected⟩ := Option.bind_eq_some_iff.mp found
    exact .inr ⟨saved, filters, readBack, known, Outcome.toOption_eq_some.mp selected, rfl⟩

end

/-- An insertion sends nothing and fails, or it sends the statement that the record as the hook
leaves it makes, and then perhaps the one that reads the record back. -/
theorem runs_create {outcome : Except Error Outcome}
    (runs : Runs query.create record exchanges outcome after) :
    Declines exchanges outcome ∨ ∃ model statement, query.prepare = .ok model ∧
      insertStatement model query.dialect (recordLeft .beforeCreate record exchanges)
        (query.returning? model) = .ok statement ∧
      (statements exchanges = [statement] ∨ ∃ saved filters readBack,
        keyFilters? model saved = some filters ∧
        selectStatement model query.dialect filters [] (some 1) none = .ok readBack ∧
        statements exchanges = [statement, readBack]) := by
  cases creates_of_runs runs with
  | unprepared refused => exact .inl ⟨rfl, _, rfl⟩
  | stopped _ called => exact .inl ⟨Hook.isSilent_before _ _ _ _ called, _, rfl⟩
  | unbuilt _ called failed => exact .inl ⟨Hook.isSilent_before _ _ _ _ called, _, rfl⟩
  | refused readies inserts | unsaved readies inserts unwritten =>
    have sent := inserts.statement?
    exact .inr ⟨_, _, readies.prepared, readies.built_recordLeft sent [],
      .inl (readies.statements_append sent [])⟩
  | unread readies inserts writes reloads =>
    have sent := inserts.statement?
    exact .inr ⟨_, _, readies.prepared, readies.built_recordLeft sent _,
      readies.sends_of_reads sent reloads.statements_eq⟩
  | @saved _ model _ _ _ _ saved reading _ closing readies inserts writes reloads silent =>
    have sent := inserts.statement?
    have reads : statements (reading ++ closing) = (query.readBack? model saved).toList := by
      rw [statements_append, silent, List.append_nil]
      exact reloads.statements_eq
    exact .inr ⟨_, _, readies.prepared, readies.built_recordLeft sent _,
      readies.sends_of_reads sent reads⟩

end Query

end RecordMapper
