/-
This file says what an insertion sends, for records whose values are those that their types hold.
Such values have the kinds of their columns already, so the statement of an insertion can always be
built, and so can the one that reads the record back by its keys. The first leaves out the columns
that the database fills by itself where the record has only defaults for them. The second follows if
the record, with the key that has been written back to it, has all of its keys.
-/

import RecordMapper.Proofs.Program.Replay
import RecordMapper.Proofs.Query.HalfDone
import RecordMapper.Proofs.Query.KeyedWrites
import RecordMapper.Proofs.Record.RoundTrip
import RecordMapper.Proofs.Statement.Listed

namespace RecordMapper

open Operation Query

variable {query : Query} {model : Model} {record inserted saved : Record}

/-! ### The statement of an insertion -/

/-- A field is left to the database: it is generated, or a moment of the row's history, and the
record has only its default. -/
def IsLeftToDatabase (record : Record) (field : Field) : Prop :=
  (field.isAutoIncrement = true ∨ field.column = "created_at" ∨ field.column = "updated_at") ∧
    IsUnset record field

/-- The text that inserts into the columns of fields, or a row of defaults if there are none. -/
def insertionText (dialect : Dialect) (model : Model) (listed : List Field) : String :=
  if listed.isEmpty then dialect.insertDefaults model.table
  else
    "INSERT INTO " ++ dialect.quote model.table ++
      " (" ++ ", ".intercalate (listed.map fun field => dialect.quote field.column) ++
      ") VALUES (" ++ ", ".intercalate
        ((listed.zipIdx 1).map fun placed => dialect.marker placed.2 placed.1.kind) ++ ")"

/-- A statement inserts a record. -/
structure IsInsertion (query : Query) (model : Model) (inserted : Record) (statement : Statement)
    (listed : List Field) (suffix : String) : Prop where
  /-- The columns are listed in the order of the model's fields. -/
  order : listed.Sublist model.fields
  member : ∀ field, field ∈ listed ↔ field ∈ model.fields ∧ ¬ IsLeftToDatabase inserted field
  sql : statement.sql = insertionText query.dialect model listed ++ suffix
  arguments : statement.arguments =
    listed.map fun field => (valueAt inserted field.position, field.kind)
  /-- The values are in the form of their kinds. -/
  coerced : ∀ field ∈ listed, (valueAt inserted field.position).coerce field.kind =
    .ok (valueAt inserted field.position)
  suffix : AsksBack query model suffix ∨
    (∀ clause, ¬ AsksBack query model clause) ∧ suffix = ""

theorem Field.isDatabaseFilled_iff {field : Field} : field.isDatabaseFilled = true ↔
    field.isAutoIncrement = true ∨ field.column = "created_at" ∨ field.column = "updated_at" := by
  unfold isDatabaseFilled momentColumns
  simp

/-- The inserted fields are those that are not left to the database. -/
theorem mem_insertedFields {field : Field} :
    field ∈ insertedFields model inserted ↔
      field ∈ model.fields ∧ ¬ IsLeftToDatabase inserted field := by
  unfold insertedFields IsLeftToDatabase IsUnset
  rw [List.mem_filter, Bool.not_eq_true', ← Bool.not_eq_true, Bool.and_eq_true,
    Field.isDatabaseFilled_iff]

/-- The argument that an insertion has for a field of a record. -/
def insertedArgument (record : Record) (field : Field) : Argument :=
  (valueAt record field.position, field.kind)

/-- The fragments of an insertion have its text. -/
theorem written_insertFragments (dialect : Dialect) (fields : List Field) (record : Record) :
    written dialect 0
        (insertFragments model dialect fields (fields.map (insertedArgument record))) =
      insertionText dialect model fields := by
  unfold insertFragments insertionText
  split
  · rw [written, written, String.append_empty]
  · have markers : written dialect 0 (separated ", "
        (fields.map fun field => [.argument (insertedArgument record field)])) =
          ", ".intercalate ((fields.zipIdx 1).map fun placed =>
            dialect.marker placed.2 placed.1.kind) :=
      written_separated ", " (fun (field : Field) position => dialect.marker position field.kind)
        (fun _ _ => rfl) (fun _ _ bound => written_argument bound _) 0
    rw [List.map_map, List.cons_append, written, written_append_text]
    show _ ++ (written dialect 0 (separated ", "
      (fields.map fun field => [.argument (insertedArgument record field)])) ++ ")") = _
    rw [markers, Dialect.quoteAll, List.map_map, ← String.append_assoc]
    rfl

/-- The fragments of an insertion have the values of its fields. -/
theorem supplied_insertFragments (dialect : Dialect) (fields : List Field) (record : Record) :
    supplied (insertFragments model dialect fields (fields.map (insertedArgument record))) =
      fields.map (insertedArgument record) := by
  unfold insertFragments
  split
  · rename_i empty
    rw [List.isEmpty_iff.mp empty]
    rfl
  · rw [List.cons_append, supplied, supplied_append, supplied_separated, List.flatMap_map]
    show ((fields.map (insertedArgument record)).flatMap fun argument => [argument]) ++ [] = _
    rw [List.append_nil]
    exact (List.map_eq_flatMap).symm.trans (List.map_id _)

/-- Where the values of a record have the kinds of the model's fields, the statement that inserts
the record is built. -/
theorem insertStatement_eq_ok (dialect : Dialect) (returning : Option String)
    (coerced : ∀ field ∈ model.fields, (valueAt inserted field.position).coerce field.kind =
      .ok (valueAt inserted field.position)) :
    insertStatement model dialect inserted returning =
      .ok ⟨insertionText dialect model (insertedFields model inserted) ++ returning.getD "",
        (insertedFields model inserted).map (insertedArgument inserted)⟩ := by
  have arguments : (insertedFields model inserted).mapM (fieldArgument inserted) =
      .ok ((insertedFields model inserted).map (insertedArgument inserted)) := by
    refine Outcome.mapM_eq_ok.mpr (List.forall₂_map_right_iff.mpr (List.forall₂_same.mpr ?_))
    intro field member
    rw [fieldArgument, coerceOperand, coerced field (mem_insertedFields.mp member).1]
    rfl
  refine Outcome.map_eq_ok.mpr ⟨_, arguments, ?_⟩
  rw [ofFragments_eq, written_append, supplied_append, written_insertFragments,
    supplied_insertFragments]
  cases returning with
  | none => simp only [written, supplied, List.append_nil, Option.getD_none]
  | some clause =>
    simp only [written, supplied, List.append_nil, Option.getD_some, String.append_empty]

/-- The statement that inserts a record of its type can be built. -/
theorem exists_insertStatement (types : query.type.HasTypes)
    (resolves : query.type.ResolvesTo model) (holds : query.type.Holds inserted) :
    ∃ statement listed suffix,
      insertStatement model query.dialect inserted (query.returning? model) = .ok statement ∧
        IsInsertion query model inserted statement listed suffix := by
  have coerced (field : Field) (member : field ∈ model.fields) :
      (valueAt inserted field.position).coerce field.kind =
        .ok (valueAt inserted field.position) := holds.coerce types resolves member
  refine ⟨_, insertedFields model inserted, (query.returning? model).getD "",
    insertStatement_eq_ok query.dialect _ coerced, ?_⟩
  refine
    { order := List.filter_sublist
      member := fun _ => mem_insertedFields
      sql := rfl
      arguments := rfl
      coerced := fun field member => coerced field (mem_insertedFields.mp member).1
      suffix := ?_ }
  cases asked : query.returning? model with
  | none =>
    refine .inr ⟨fun clause asks => ?_, rfl⟩
    rw [returning?_eq_some.mpr asks] at asked
    cases asked
  | some clause => exact .inl (returning?_eq_some.mp asked)

/-! ### Reading back -/

/-- All keys of a record are known: there are keys, and none of them is unset. -/
def KnowsKeys (model : Model) (record : Record) : Prop :=
  model.primaryKeys ≠ [] ∧ ∀ key ∈ model.primaryKeys, ¬ IsUnset record key

/-- A statement reads a record back: it selects the columns of all fields from at most one row, the
one that has all keys of the record. -/
structure ReadsBack (query : Query) (model : Model) (saved : Record) (statement : Statement) :
    Prop where
  sql : statement.sql =
    "SELECT " ++ ", ".intercalate (model.fields.map query.dialect.selectColumn) ++
    " FROM " ++ query.dialect.quote model.table ++
    " WHERE " ++ " AND ".intercalate (equations query.dialect model.primaryKeys) ++ " LIMIT 1"
  arguments : statement.arguments =
    model.primaryKeys.map fun key => (valueAt saved key.position, key.kind)

/-- Without all keys of the record nothing is read back. -/
theorem readBack?_eq_none (unknown : ¬ KnowsKeys model saved) :
    query.readBack? model saved = none := by
  unfold readBack?
  cases known : keyFilters? model saved with
  | none => rfl
  | some filters =>
    obtain ⟨keyed, set, -⟩ := keyFilters?_eq_some.mp known
    exact absurd ⟨keyed, set⟩ unknown

/-- The condition that a key of a record makes. -/
def keyCondition (record : Record) (key : Field) : Condition :=
  .compare .equal key.column (valueAt record key.position) key.kind

/-- The fragments of a key's condition are those of its equation. -/
theorem fragments_keyCondition (dialect : Dialect) (record : Record) (key : Field) :
    (keyCondition record key).fragments dialect =
      equationFragments dialect key (valueAt record key.position) := by
  rw [keyCondition, Condition.fragments, equationFragments, String.append_assoc,
    String.append_assoc]
  rfl

/-- The conditions that the known keys of a record make. -/
theorem conditions_of_keys (accepted : model.IsAccepted)
    (set : ∀ key ∈ model.primaryKeys, ¬ IsUnset saved key)
    (coerced : ∀ key ∈ model.primaryKeys, (valueAt saved key.position).coerce key.kind =
      .ok (valueAt saved key.position)) :
    conditions model (model.primaryKeys.map (keyFilter saved)) =
      .ok (model.primaryKeys.map (keyCondition saved)) := by
  refine Outcome.mapM_eq_ok.mpr (List.forall₂_map_left_iff.mpr (List.forall₂_map_right_iff.mpr
    (List.forall₂_same.mpr fun key member => Filter.condition_eq_ok.mpr ⟨key, ?_, ?_⟩)))
  · exact accepted.resolve?_column (Model.mem_of_primaryKeys member)
  · refine .compare (fun absent => set key member ?_) (coerced key member)
    rw [IsUnset, absent]
    rfl

/-- The clause of the conditions that keys make, of which there is at least one. -/
theorem whereFragments_of_keys (dialect : Dialect) {keys : List Field} (nonempty : keys ≠ []) :
    whereFragments dialect (keys.map (keyCondition saved)) = .text " WHERE " ::
      separated " AND " (keys.map fun key =>
        equationFragments dialect key (valueAt saved key.position)) := by
  rw [whereFragments, if_neg (by simpa using nonempty), List.map_map]
  exact congrArg (fun each => Fragment.text " WHERE " :: separated " AND " (keys.map each))
    (funext (fragments_keyCondition dialect saved))

/-- A statement with the equations of keys between two texts. -/
theorem ofFragments_of_keys (dialect : Dialect) (record : Record) (keys : List Field)
    (head tail : String) :
    Statement.ofFragments dialect (.text head :: .text " WHERE " ::
        separated " AND " (keys.map fun key =>
          equationFragments dialect key (valueAt record key.position)) ++ [.text tail]) =
      ⟨head ++ " WHERE " ++ " AND ".intercalate (equations dialect keys) ++ tail,
        keys.map fun key => (valueAt record key.position, key.kind)⟩ := by
  have texts := written_equations dialect " AND " id
    (fun key => valueAt record key.position) keys
  have values := supplied_equations dialect " AND " id
    (fun key => valueAt record key.position) keys
  rw [List.map_id] at texts
  simp only [id] at texts values
  rw [ofFragments_eq, written_append_text, written, written, texts, supplied_append, supplied,
    supplied, values, supplied, supplied, List.append_nil, ← String.append_assoc]

/-- With all keys of a record of its type known, the statement that reads it back can be built. -/
theorem exists_readBack? (types : query.type.HasTypes) (resolves : query.type.ResolvesTo model)
    (holds : query.type.Holds saved) (known : KnowsKeys model saved) :
    ∃ statement, query.readBack? model saved = some statement ∧
      ReadsBack query model saved statement := by
  have carried := conditions_of_keys resolves.isAccepted known.2 fun key member =>
    holds.coerce types resolves (Model.mem_of_primaryKeys member)
  have filters : keyFilters? model saved = some (model.primaryKeys.map (keyFilter saved)) :=
    keyFilters?_eq_some.mpr ⟨known.1, known.2, rfl⟩
  unfold readBack? selectStatement
  rw [filters, Option.bind_some, carried]
  refine ⟨_, rfl, ?_⟩
  dsimp only
  rw [whereFragments_of_keys _ known.1, show orderFragments [] = [] from rfl, List.append_nil,
    ofFragments_of_keys]
  exact ⟨rfl, rfl⟩

/-! ### Hooks that keep to types -/

/-- Hooks leave records of a type as records of that type. -/
def Environment.KeepsRecords {State : Type} (environment : Environment State) (type : RecordType) :
    Prop :=
  ∀ call state, call.type = type → type.Holds call.record →
    type.Holds (environment.call call state).1.record

/-- A hook that is called at the opening of a transcript leaves a record of its type. -/
theorem Environment.KeepsRecords.holds_of_before {State : Type} {environment : Environment State}
    {hook : Hook} {type : RecordType} {state final : State} {opening closing : List Exchange}
    {outcome : Except Error Unit} (keeps : environment.KeepsRecords type)
    (holds : type.Holds record) (leads : environment.Leads state (opening ++ closing) final)
    (called : Runs (hook.before model type) record opening outcome inserted) :
    type.Holds inserted := by
  rcases Hook.runs_before.mp called with ⟨-, answer, rfl, -, rfl⟩ | ⟨-, -, -, rfl⟩
  · obtain ⟨middle, first, -⟩ := Environment.leads_append.mp leads
    obtain ⟨gives, -⟩ := Environment.leads_singleton.mp first
    rw [← show (environment.call _ state).1 = answer from gives]
    exact keeps _ state rfl holds
  · exact holds

/-- A record with a key written back is one that its type holds. -/
theorem Query.WritesBack.holds {type : RecordType} {reported : Outcome}
    (writes : WritesBack type model inserted reported saved) (holds : type.Holds inserted) :
    type.Holds saved := by
  by_cases reports : ∃ key identifier, ReportsKey model inserted reported key identifier
  · obtain ⟨key, identifier, reports⟩ := reports
    obtain ⟨value, -, stored⟩ := writes.written key identifier reports
    exact holds.setValue stored
  · rw [writes.kept fun key identifier each => reports ⟨key, identifier, each⟩]
    exact holds

/-- Where no two fields of a record type share a name, a key is written back to its own place. -/
theorem Query.WritesBack.eq_set {type : RecordType} {reported : Outcome} {key : Field}
    {identifier : Int64} (writes : WritesBack type model inserted reported saved)
    (resolves : type.ResolvesTo model) (supported : type.IsSupported)
    (reports : ReportsKey model inserted reported key identifier) :
    ∃ value, coerceOperand key.kind (.bigInt identifier) = .ok value ∧
      saved = inserted.set key.position value := by
  obtain ⟨value, comes, stored⟩ := writes.written key identifier reports
  have known := Model.mem_of_primaryKeys (Model.mem_of_generatedKey? reports.1)
  obtain ⟨columnType, typed, kind⟩ := supported.typeAt? resolves known
  have fits := fits_of_coerceOperand kind comes
  exact ⟨value, comes, ((supported.setValue_eq_ok resolves known typed fits).mp stored).2⟩

/-! ### Insertions -/

/-- How an insertion goes on after the answer to its statement, and how it leaves the record. -/
inductive GoesOn (query : Query) (model : Model) (inserted : Record) (statement : Statement)
    (answer : Exchange) : List Exchange → Record → Prop
  /-- The statement has failed. Nothing else is asked for, and the record is the inserted one. -/
  | refused {error}
      (inserts : Inserts model statement (query.askedKey? model) answer (.error error)) :
      GoesOn query model inserted statement answer [] inserted
  /-- The reported key cannot be written back. Nothing else is asked for, and the record is the
  inserted one. -/
  | unsaved {reported}
      (inserts : Inserts model statement (query.askedKey? model) answer (.ok reported))
      (unwritten : ∀ saved, ¬ WritesBack query.type model inserted reported saved) :
      GoesOn query model inserted statement answer [] inserted
  /-- The record has been saved and knows its keys, by which it is read back once. Unless a row is
  found, the hook after the insertion is the only one to change the saved record. -/
  | known {reported saved readBack found closing left}
      (inserts : Inserts model statement (query.askedKey? model) answer (.ok reported))
      (writes : WritesBack query.type model inserted reported saved)
      (keys : KnowsKeys model saved) (reads : ReadsBack query model saved readBack)
      (silent : statements closing = [])
      (kept : (∀ row, found ≠ .ok (some row)) → left = recordLeft .afterCreate saved closing) :
      GoesOn query model inserted statement answer (.fetchedFirst readBack found :: closing) left
  /-- The record has been saved without knowing its keys. That is reported, no other statement is
  sent, and the hook after the insertion is the only one to change the saved record. -/
  | unknown {reported saved entry closing}
      (inserts : Inserts model statement (query.askedKey? model) answer (.ok reported))
      (writes : WritesBack query.type model inserted reported saved)
      (keys : ¬ KnowsKeys model saved) (silent : statements closing = []) :
      GoesOn query model inserted statement answer (.reported entry :: closing)
        (recordLeft .afterCreate saved closing)

/-- A record of its type that has been saved is read back exactly if it knows its keys. -/
theorem goesOn_of_reloads (types : query.type.HasTypes) (resolves : query.type.ResolvesTo model)
    {statement : Statement} {answer : Exchange} {reported : Outcome}
    (inserts : Inserts model statement (query.askedKey? model) answer (.ok reported))
    (writes : WritesBack query.type model inserted reported saved)
    (holds : query.type.Holds saved) {reading closing : List Exchange} {ended : Except Error Unit}
    {loaded : Record} (reloads : Reloads query model saved reading ended loaded)
    (silent : statements closing = []) :
    GoesOn query model inserted statement answer (reading ++ closing)
      (recordLeft .afterCreate loaded closing) := by
  have known {readBack : Statement} (found : query.readBack? model saved = some readBack) :
      KnowsKeys model saved ∧ ReadsBack query model saved readBack := by
    have keys : KnowsKeys model saved := by
      by_contra unknown
      cases found.symm.trans (readBack?_eq_none unknown)
    obtain ⟨_, same, reads⟩ := exists_readBack? types resolves holds keys
    cases found.symm.trans same
    exact ⟨keys, reads⟩
  cases reloads with
  | unknown entry keys =>
    refine .unknown inserts writes (fun known => ?_) silent
    cases keys.symm.trans (keyFilters?_eq_some.mpr ⟨known.1, known.2, rfl⟩)
  | unbuilt keys unreadable =>
    obtain ⟨keyed, set, -⟩ := keyFilters?_eq_some.mp keys
    obtain ⟨_, found, -⟩ := exists_readBack? types resolves holds ⟨keyed, set⟩
    cases unreadable.symm.trans found
  | failed found | missing found =>
    obtain ⟨keys, reads⟩ := known found
    exact .known inserts writes keys reads silent fun _ => rfl
  | found found =>
    obtain ⟨keys, reads⟩ := known found
    exact .known inserts writes keys reads silent fun absent => absurd rfl (absent _)

/-- In a transcript an insertion sends the statement that inserts the record as the hook leaves it,
goes on, and leaves a record. In a record type with distinct names a key is written back to its own
place. -/
def SendsInsertion (query : Query) (record : Record) (exchanges : List Exchange) (left : Record) :
    Prop :=
  ∃ model inserted statement listed suffix opening answer closing, query.model = .ok model ∧
    inserted = recordLeft .beforeCreate record exchanges ∧
    IsInsertion query model inserted statement listed suffix ∧
    exchanges = opening ++ answer :: closing ∧ statements opening = [] ∧
    answer.statement? = some statement ∧
    GoesOn query model inserted statement answer closing left ∧
    ((query.type.fields.map RecordField.name).Nodup → ∀ reported saved key identifier,
      WritesBack query.type model inserted reported saved →
      ReportsKey model inserted reported key identifier →
        ∃ value, coerceOperand key.kind (.bigInt identifier) = .ok value ∧
          saved = inserted.set key.position value)

theorem Query.Readies.sendsInsertion {opening closing : List Exchange} {statement : Statement}
    {answer : Exchange} (readies : Readies query record opening model inserted statement)
    (resolved : query.IsResolved) (types : query.type.HasTypes)
    (holds : query.type.Holds inserted) (sent : answer.statement? = some statement)
    {left : Record} (goes : GoesOn query model inserted statement answer closing left) :
    SendsInsertion query record (opening ++ answer :: closing) left := by
  have found := model_of_prepare readies.prepared
  have resolves := resolved model found
  obtain ⟨other, listed, suffix, built, isInsertion⟩ := exists_insertStatement types resolves holds
  cases readies.built.symm.trans built
  exact ⟨model, inserted, statement, listed, suffix, opening, answer, closing, found,
    (readies.recordLeft_eq sent closing).symm, isInsertion, rfl,
    Hook.isSilent_before _ _ _ _ readies.called, sent, goes,
    fun names _ _ _ _ writes reports => writes.eq_set resolves ⟨names, types⟩ reports⟩

/-- What an insertion sends and writes to the record. It is refused only if the query cannot be
prepared or the hook fails. Otherwise it sends the statement that inserts the record as the hook
leaves it. A generated key that is reported is written back if the record had none; then the record
is read back if it knows its keys. -/
theorem Query.create_inserts (query : Query) (resolved : query.IsResolved)
    (types : query.type.HasTypes) (record : Record) (holds : query.type.Holds record)
    {State : Type} (environment : Environment State)
    (keeps : environment.KeepsRecords query.type) (state : State) :
    (Refuses environment state query.create record ∧
      ((∃ error, query.prepare = .error error) ∨ ∃ answer error,
        openingReturn? .beforeCreate ((query.create record).exchanges environment state) =
          some answer ∧ answer.outcome = .error error)) ∨
    SendsInsertion query record ((query.create record).exchanges environment state)
      ((query.create record).run environment state).1.2 := by
  have runs := Program.runs_exchanges environment (query.create record) state
  have leads : environment.Leads state ((query.create record).exchanges environment state)
      ((query.create record).run environment state).2 := Program.leads_exchanges _ _
  unfold Refuses
  generalize (query.create record).exchanges environment state = exchanges at runs leads ⊢
  generalize ((query.create record).run environment state).2 = final at leads
  generalize ((query.create record).run environment state).1 = ended at runs ⊢
  obtain ⟨outcome, left⟩ := ended
  have keptBy {opening closing model inserted statement answer}
      (readies : Readies query record opening model inserted statement)
      (led : environment.Leads state (opening ++ answer :: closing) final) :
      query.type.ResolvesTo model ∧ query.type.Holds inserted :=
    ⟨resolved model (model_of_prepare readies.prepared),
      keeps.holds_of_before holds led readies.called⟩
  cases creates_of_runs runs with
  | @unprepared error refused => exact .inl ⟨⟨rfl, error, rfl⟩, .inl ⟨error, refused⟩⟩
  | @stopped model _ error _ prepared called =>
    refine .inl ⟨⟨Hook.isSilent_before _ _ _ _ called, error, rfl⟩, .inr ?_⟩
    rcases Hook.runs_before.mp called with ⟨-, answer, rfl, failed, -⟩ | ⟨-, -, equal, -⟩
    · exact ⟨answer, error, rfl, failed.symm⟩
    · cases equal
  | @unbuilt model _ inserted error prepared called failed =>
    rw [← List.append_nil exchanges] at leads
    obtain ⟨statement, -, -, built, -⟩ := exists_insertStatement types
      (resolved model (model_of_prepare prepared)) (keeps.holds_of_before holds leads called)
    cases failed.symm.trans built
  | refused readies inserts =>
    exact .inr (readies.sendsInsertion resolved types (keptBy readies leads).2 inserts.statement?
      (.refused inserts))
  | unsaved readies inserts unwritten =>
    exact .inr (readies.sendsInsertion resolved types (keptBy readies leads).2 inserts.statement?
      (.unsaved inserts unwritten))
  | unread readies inserts writes reloads =>
    obtain ⟨resolves, holdsInserted⟩ := keptBy readies leads
    have goes := goesOn_of_reloads types resolves inserts writes (writes.holds holdsInserted)
      reloads statements_nil
    rw [List.append_nil] at goes
    exact .inr (readies.sendsInsertion resolved types holdsInserted inserts.statement? goes)
  | saved readies inserts writes reloads silent =>
    obtain ⟨resolves, holdsInserted⟩ := keptBy readies leads
    exact .inr (readies.sendsInsertion resolved types holdsInserted inserts.statement?
      (goesOn_of_reloads types resolves inserts writes (writes.holds holdsInserted) reloads silent))

/-! ### An insertion of a ticket -/

namespace Query

/-- A record type with a generated key, a moment and a field that is left out, and with a hook. -/
def ticket : RecordType where
  identity := 0
  name := "Ticket"
  table := none
  fields := [⟨"id", .typed ⟨.integer .int64, false⟩, "primaryKey;autoIncrement"⟩,
    ⟨"holder", .typed ⟨.string, false⟩, ""⟩, ⟨"seal", .keptOut "Seal", "-"⟩,
    ⟨"issued", .typed ⟨.dateTime, false⟩, "column:created_at"⟩]
  hooks := [.beforeCreate]
  answers := [.beforeCreate]

/-- The query on all tickets. -/
def tickets : Query where
  dialect := .postgres
  type := ticket
  model := (Schema.resolve .snakeCasePlural ticket.descriptor).2

/-- A ticket with nothing but defaults. -/
def blankTicket : Record :=
  [.bigInt 0, .text "", .null, .dateTime Calendar.Moment.epoch]

/-- An environment in which the hook makes tickets out to Ada, and the first row to be asked for is
the key of a ticket. -/
def boxOffice : Environment Bool where
  execute _ sold := (.ok ⟨0, none⟩, sold)
  fetchFirst _ sold := (.ok (if sold then none else some [some (.bigInt 7)]), true)
  fetchAll _ sold := (.ok [], sold)
  call call sold := (⟨call.record.set 1 (.text "Ada"), call.changes, .ok ()⟩, sold)
  control _ sold := (.ok (), sold)
  report _ sold := sold

theorem ticket_hasTypes : ticket.HasTypes := by
  intro field member
  simp only [ticket, List.mem_cons, List.not_mem_nil, or_false] at member
  rcases member with rfl | rfl | rfl | rfl
  · exact .inr ⟨by decide, _, rfl⟩
  · exact .inr ⟨by decide, _, rfl⟩
  · exact .inl ⟨by decide, _, rfl⟩
  · exact .inr ⟨by decide, _, rfl⟩

theorem blankTicket_holds : ticket.Holds blankTicket := by
  refine .cons ?_ (.cons ?_ (.cons ?_ (.cons ?_ .nil))) <;>
    · intro columnType same
      cases same <;> decide

/-- A ticket that is made out to Ada is still a ticket. -/
theorem boxOffice_keepsRecords : boxOffice.KeepsRecords ticket := by
  rintro ⟨hook, type, record, changes⟩ sold - holds
  cases holds with
  | cons key others =>
    cases others with
    | cons holder others =>
      refine .cons key (.cons ?_ others)
      intro columnType same
      cases same
      decide

/-- A ticket is inserted without its key and its moment, gets the reported key and is read back. -/
theorem create_inserts_blankTicket :
    ticket.HasTypes ∧ ticket.Holds blankTicket ∧ boxOffice.KeepsRecords ticket ∧
      ((tickets.create blankTicket).run boxOffice false).1 =
        (.ok ⟨1, some 7⟩, [.bigInt 7, .text "Ada", .null, .dateTime Calendar.Moment.epoch]) ∧
      statements ((tickets.create blankTicket).exchanges boxOffice false) =
        [⟨"INSERT INTO \"tickets\" (\"holder\") VALUES ($1) RETURNING \"id\"",
            [(.text "Ada", .text)]⟩,
          ⟨"SELECT \"id\", \"holder\", \"created_at\"::TEXT FROM \"tickets\" WHERE \"id\" = $1" ++
              " LIMIT 1", [(.bigInt 7, .bigInt)]⟩] ∧
      SendsInsertion tickets blankTicket ((tickets.create blankTicket).exchanges boxOffice false)
        [.bigInt 7, .text "Ada", .null, .dateTime Calendar.Moment.epoch] := by
  have ran : ((tickets.create blankTicket).run boxOffice false).1 =
      (.ok ⟨1, some 7⟩, [.bigInt 7, .text "Ada", .null, .dateTime Calendar.Moment.epoch]) := by
    decide +kernel
  have sent : statements ((tickets.create blankTicket).exchanges boxOffice false) =
      [⟨"INSERT INTO \"tickets\" (\"holder\") VALUES ($1) RETURNING \"id\"",
          [(.text "Ada", .text)]⟩,
        ⟨"SELECT \"id\", \"holder\", \"created_at\"::TEXT FROM \"tickets\" WHERE \"id\" = $1" ++
            " LIMIT 1", [(.bigInt 7, .bigInt)]⟩] := by decide +kernel
  refine ⟨ticket_hasTypes, blankTicket_holds, boxOffice_keepsRecords, ran, sent, ?_⟩
  rcases tickets.create_inserts (fun _ same => ⟨.snakeCasePlural, same⟩) ticket_hasTypes blankTicket
    blankTicket_holds boxOffice boxOffice_keepsRecords false with refused | sends
  · rw [refused.1.1] at sent
    cases sent
  · rw [ran] at sends
    exact sends

end Query

end RecordMapper
