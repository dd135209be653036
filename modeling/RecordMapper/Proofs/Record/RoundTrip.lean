/-
This file proves that records survive being stored and loaded. Each mapped field of a record is
bound as an insertion binds it and its cell is put where the columns of a selection want it; what is
read from the row goes back to the places of the fields. No two fields of a model have a place in
common, so every value finds its own place again, and places of fields that are left out stay
absent. What comes back is the record as it is written: it is the record itself, up to the digits
that are cut off, exactly if its leap seconds are in their places.
-/

import RecordMapper.Proofs.FieldTag
import RecordMapper.Proofs.Record.Overwriting
import RecordMapper.Proofs.Record.Placing
import RecordMapper.Proofs.Statement.Fragments
import RecordMapper.Proofs.Value.Transport
import RecordMapper.Query.Statements

namespace RecordMapper

/-! ### Tags -/

/-- Every tag of a record type is the mark that leaves a field out and nothing else, or else has no
clause that is such a mark. -/
def RecordType.MarksAlone (type : RecordType) : Prop :=
  ∀ field ∈ type.fields, FieldTag.isLoneMark field.tag = true ∨
    ∀ clause ∈ FieldTag.clauses field.tag.toList, clause.comparedKey ≠ "-"

instance (type : RecordType) : Decidable type.MarksAlone :=
  inferInstanceAs (Decidable (∀ field ∈ type.fields, FieldTag.isLoneMark field.tag = true ∨
    ∀ clause ∈ FieldTag.clauses field.tag.toList, clause.comparedKey ≠ "-"))

/-- Where marks stand alone, fields without the mark are mapped. -/
theorem RecordType.MarksAlone.isMapped {type : RecordType} (marks : type.MarksAlone)
    {field : RecordField} (member : field ∈ type.fields)
    (unmarked : FieldTag.isLoneMark field.tag = false) :
    (FieldTag.parse field.tag).isIgnored = false := by
  have clean : ∀ clause ∈ FieldTag.clauses field.tag.toList, clause.comparedKey ≠ "-" :=
    (marks field member).resolve_left (by rw [unmarked]; exact Bool.false_ne_true)
  rw [FieldTag.parse_eq_ofClauses]
  show (!(FieldTag.under "-" _).isEmpty) = false
  rw [FieldTag.not_isEmpty_under, List.any_eq_false]
  exact fun clause listed => by simpa using clean clause listed

/-! ### Values of a record -/

/-- All fields keep what is given to them if each keeps what is given to it. -/
theorem storeAll_eq_ok {name : String} {fields : List RecordField} {values results : List Value}
    (given : values.length = fields.length)
    (each : List.Forall₂ (fun pair result => pair.1.store name (some pair.2) = .ok result)
      (fields.zip values) results) :
    storeAll name fields values = .ok results := by
  induction fields generalizing values results with
  | nil =>
    cases each
    rfl
  | cons field fields inductionHypothesis =>
    cases values with
    | nil => cases given
    | cons value values =>
      cases each with
      | cons stored others =>
        simp only [storeAll, List.head?_cons, List.tail_cons, stored,
          inductionHypothesis (Nat.succ.inj given) others, Except.map]

/-! ### Cells of a row -/

/-- Cells after others are read field by field, each as the field that it stands for wants it. -/
theorem exists_decodeCells {reads : Field → Value → Prop} {fields : List Field} {cells : Row}
    (each : List.Forall₂ (fun field cell => ∀ (row : Row) (column : Nat),
      row[column]? = some cell →
        ∃ read, Wire.decode row column field.kind = .ok read ∧ reads field read) fields cells)
    (earlier : Row) :
    ∃ found, decodeCells (earlier ++ cells) earlier.length fields = .ok found ∧
      found.map Prod.fst = fields ∧ ∀ pair ∈ found, reads pair.1 pair.2 := by
  induction each generalizing earlier with
  | nil => exact ⟨[], rfl, rfl, fun _ member => by cases member⟩
  | @cons field cell fields cells first _ inductionHypothesis =>
    have stands : (earlier ++ cell :: cells)[earlier.length]? = some cell := by
      rw [List.getElem?_append_right (Nat.le_refl _), Nat.sub_self, List.getElem?_cons_zero]
    obtain ⟨read, decoded, reads⟩ := first _ _ stands
    obtain ⟨found, others, fieldsEqual, allRead⟩ := inductionHypothesis (earlier ++ [cell])
    rw [List.length_append, List.length_singleton, List.append_assoc, List.singleton_append]
      at others
    refine ⟨(field, read) :: found, ?_, ?_, List.forall_mem_cons.mpr ⟨reads, allRead⟩⟩
    · simp only [decodeCells, decoded, others, Except.map]
    · rw [List.map_cons, fieldsEqual]

/-! ### Records -/

/-- A record type holds a record that has a value for every field, of a typed field one that the
type of the field holds. -/
def RecordType.Holds (type : RecordType) (record : Record) : Prop :=
  List.Forall₂ (fun field value => ∀ columnType, field.storage = .typed columnType →
    columnType.holds value = true) type.fields record

/-- What comes back for a field of a record: nothing if the field is kept out of the database, and
otherwise what the product keeps of the value. -/
def DatabaseProduct.keptIn (product : DatabaseProduct) (field : RecordField) (value : Value) :
    Value :=
  match field.storage with
  | .keptOut _ => .null
  | _ => product.kept value

section

variable {product : DatabaseProduct} {type : RecordType} {model : Model} {record : Record}

theorem valueAt_of_lt {place : Nat} (inside : place < record.length) :
    valueAt record place = record[place] := by
  rw [valueAt, List.getElem?_eq_getElem inside, Option.getD_some]

theorem valueAt_map_asShown (place : Nat) :
    valueAt (record.map Value.asShown) place = (valueAt record place).asShown := by
  rw [valueAt, valueAt, List.getElem?_map]
  cases record[place]? <;> rfl

/-- A record is written as it is exactly if its leap seconds are in their places. -/
theorem map_asShown_eq_self_iff :
    record.map Value.asShown = record ↔ ∀ value ∈ record, value.hasPlainSecond = true := by
  calc
    record.map Value.asShown = record ↔ record.map Value.asShown = record.map id := by
      rw [List.map_id]
    _ ↔ ∀ value ∈ record, value.asShown = id value := List.map_inj_left
    _ ↔ _ := forall₂_congr fun _ _ => Value.asShown_eq_self_iff

/-- The type of a field at a place holds the value there. -/
theorem RecordType.Holds.valueAt (holds : type.Holds record) {place : Nat}
    {columnType : ColumnType} (typed : type.typeAt? place = some columnType) :
    valueAt record place ∈ record ∧ columnType.holds (valueAt record place) = true := by
  obtain ⟨declared, found, stored⟩ := RecordType.typeAt?_eq_some.mp typed
  obtain ⟨inside, rfl⟩ := List.getElem?_eq_some_iff.mp found
  have within : place < record.length := holds.length_eq ▸ inside
  rw [valueAt_of_lt within]
  exact ⟨List.getElem_mem within, holds.get inside within columnType stored⟩

/-- The values of a record at the fields of its model have the kinds of the fields already. -/
theorem RecordType.Holds.coerce (holds : type.Holds record) (types : type.HasTypes)
    (resolves : type.ResolvesTo model) {field : Field} (member : field ∈ model.fields) :
    (RecordMapper.valueAt record field.position).coerce field.kind =
      .ok (RecordMapper.valueAt record field.position) := by
  obtain ⟨columnType, typed, kind⟩ := types.typeAt? resolves member
  rw [kind]
  exact ColumnType.coerce_of_holds (holds.valueAt typed).2

/-- A record with a field overwritten is one that its type holds. -/
theorem RecordType.Holds.setValue (holds : type.Holds record) {name : String} {value : Value}
    {written : Record} (stored : type.setValue record name value = .ok written) :
    type.Holds written := by
  unfold RecordType.setValue at stored
  split at stored
  · cases stored
  split at stored
  · cases stored
  rename_i declared found
  split at stored
  · cases stored
  rename_i keeps
  cases stored
  refine List.forall₂_iff_get.mpr ⟨holds.length_eq.trans List.length_set.symm, ?_⟩
  intro other inside within columnType typed
  simp only [List.get_eq_getElem, List.getElem_set]
  split
  · rename_i same
    subst same
    cases (List.getElem?_eq_getElem inside).symm.trans found
    unfold RecordField.store at keeps
    rw [List.get_eq_getElem] at typed
    rw [typed] at keeps
    exact ColumnType.holds_of_convert (Outcome.mapError_eq_ok.mp keeps)
  · exact holds.get inside (by rwa [List.length_set] at within) columnType typed

/-- What was read restores a place of a record if the type there, should the place have one, makes
of it what the product keeps of what is written in place of the value there. -/
def DatabaseProduct.Restores (product : DatabaseProduct) (type : RecordType) (record : Record)
    (place : Nat) (read : Value) : Prop :=
  ∀ columnType, type.typeAt? place = some columnType →
    columnType.convert read = .ok (product.kept (valueAt record place).asShown)

/-- The values of all mapped fields of a record are bound, and each comes back from its cell. -/
theorem DatabaseProduct.exists_sent (supported : type.IsSupported)
    (resolves : type.ResolvesTo model) (holds : type.Holds record)
    (plain : ∀ value ∈ record, value.hasPlainYear = true) :
    ∃ arguments sent, model.fields.mapM (fieldArgument record) = .ok arguments ∧
      arguments.mapM product.dialect.bindArgument = .ok sent ∧
      List.Forall₂ (fun (field : Field) cell => ∀ (row : Row) (column : Nat),
        row[column]? = some cell →
          ∃ read, Wire.decode row column field.kind = .ok read ∧
            product.Restores type record field.position read)
        model.fields (sent.map WireArgument.cell) := by
  have each : ∀ field ∈ model.fields, ∃ argument,
      fieldArgument record field = .ok (valueAt record field.position, field.kind) ∧
      product.dialect.bindArgument (valueAt record field.position, field.kind) = .ok argument ∧
      ∀ (row : Row) (column : Nat), row[column]? = some argument.cell →
        ∃ read, Wire.decode row column field.kind = .ok read ∧
          product.Restores type record field.position read := by
    intro field member
    obtain ⟨columnType, typed, kind⟩ := supported.typeAt? resolves member
    obtain ⟨listed, held⟩ := holds.valueAt typed
    obtain ⟨coerced, argument, bound, returns⟩ := product.returns_column held (plain _ listed)
    rw [← kind] at coerced bound returns
    refine ⟨argument, by rw [fieldArgument, coerced]; rfl, bound, fun row column found => ?_⟩
    obtain ⟨read, decoded, converted⟩ := returns row column found
    refine ⟨read, decoded, fun other typedAgain => ?_⟩
    cases typed.symm.trans typedAgain
    exact converted
  obtain ⟨sent, carried⟩ := Outcome.exists_forall₂ each
  refine ⟨model.fields.map fun field => (valueAt record field.position, field.kind), sent,
    Outcome.mapM_eq_ok.mpr ?_, Outcome.mapM_eq_ok.mpr ?_, ?_⟩
  · refine List.forall₂_map_right_iff.mpr (List.forall₂_same.mpr fun field member => ?_)
    obtain ⟨-, given, -⟩ := each field member
    exact given
  · exact List.forall₂_map_left_iff.mpr (carried.imp fun _ _ facts => facts.2.1)
  · exact List.forall₂_map_right_iff.mpr (carried.imp fun _ _ facts => facts.2.2)

/-- A field that is given what restores its place keeps what is to come back. -/
theorem DatabaseProduct.Restores.store (supported : type.IsSupported) {place : Nat} {read : Value}
    {declared : RecordField} (stands : type.fields[place]? = some declared)
    (restores : product.Restores type record place read) :
    declared.store type.name (some read) =
      .ok (product.keptIn declared (valueAt record place).asShown) := by
  rcases supported.storage declared (List.mem_of_getElem? stands) with
    ⟨-, typeName, stored⟩ | ⟨-, columnType, stored⟩
  · simp only [RecordField.store, DatabaseProduct.keptIn, stored]
  · have typed := RecordType.typeAt?_eq_some.mpr ⟨declared, stands, stored⟩
    have converted := restores columnType typed
    simp only [RecordField.store, DatabaseProduct.keptIn, stored, ColumnType.decodeField,
      Option.getD_some, converted, Except.mapError]

/-- A typed field of a supported record type whose marks stand alone is mapped. -/
theorem RecordType.IsSupported.exists_position (supported : type.IsSupported)
    (marks : type.MarksAlone) (resolves : type.ResolvesTo model) {place : Nat}
    {columnType : ColumnType} (typed : type.typeAt? place = some columnType) :
    ∃ field ∈ model.fields, field.position = place := by
  obtain ⟨declared, stands, stored⟩ := RecordType.typeAt?_eq_some.mp typed
  have listed := List.mem_of_getElem? stands
  have unmarked : FieldTag.isLoneMark declared.tag = false := by
    rcases supported.storage declared listed with ⟨-, typeName, keptOut⟩ | ⟨unmarked, -⟩
    · rw [stored] at keptOut
      cases keptOut
    · exact unmarked
  obtain ⟨field, member, same, -⟩ :=
    resolves.exists_standsFor stands (marks.isMapped listed unmarked)
  exact ⟨field, member, same⟩

/-- If what was found for each field of a model restores the field's place, then so does what is at
any place once all of it is put where it belongs. -/
theorem DatabaseProduct.restores_placed (supported : type.IsSupported) (marks : type.MarksAlone)
    (resolves : type.ResolvesTo model) {found : List (Field × Value)}
    (fieldsEqual : found.map Prod.fst = model.fields)
    (restores : ∀ pair ∈ found, product.Restores type record pair.1.position pair.2)
    {values : List Value} {place : Nat} {read : Value}
    (placed : (placeValues values found)[place]? = some read) :
    product.Restores type record place read := by
  intro columnType typed
  obtain ⟨field, member, rfl⟩ := supported.exists_position marks resolves typed
  rw [← fieldsEqual] at member
  obtain ⟨⟨field, own⟩, pairMember, rfl⟩ := List.mem_map.mp member
  have apart : (found.map fun pair => pair.1.position).Pairwise (· < ·) := by
    have positions := resolves.positions
    rwa [← fieldsEqual, List.map_map] at positions
  obtain ⟨inside, -⟩ := List.getElem?_eq_some_iff.mp placed
  rw [length_placeValues] at inside
  cases placed.symm.trans (getElem?_placeValues_of_mem apart pairMember inside)
  exact restores _ pairMember columnType typed

end

/-- Selections list the columns of a model in the order of its fields. -/
theorem selectStatement_columns {dialect : Dialect} {model : Model} {filters : List Filter}
    {order : List String} {limit offset : Option Nat} {statement : Statement}
    (built : selectStatement model dialect filters order limit offset = .ok statement) :
    ∃ rest, statement.sql =
      "SELECT " ++ ", ".intercalate (model.fields.map dialect.selectColumn) ++ rest := by
  obtain ⟨found, -, rfl⟩ := Outcome.map_eq_ok.mp built
  rw [ofFragments_eq]
  exact ⟨_, by simp only [List.cons_append, written, String.append_assoc]; rfl⟩

/-- If the values of all mapped fields are bound and the row of their cells is loaded, there is a
record of what the product keeps of them. -/
theorem DatabaseProduct.restores_record (product : DatabaseProduct) {type : RecordType}
    {model : Model} {record : Record} (supported : type.IsSupported) (marks : type.MarksAlone)
    (resolves : type.ResolvesTo model) (holds : type.Holds record)
    (plain : ∀ value ∈ record, value.hasPlainYear = true) :
    ∃ arguments sent, model.fields.mapM (fieldArgument record) = .ok arguments ∧
      arguments.mapM product.dialect.bindArgument = .ok sent ∧
      type.ofRow model (sent.map WireArgument.cell) =
        .ok (List.zipWith product.keptIn type.fields (record.map Value.asShown)) := by
  obtain ⟨arguments, sent, given, bound, returns⟩ :=
    product.exists_sent supported resolves holds plain
  obtain ⟨found, decoded, fieldsEqual, restores⟩ := exists_decodeCells returns []
  obtain ⟨-, -, places, -⟩ := resolves.maps
  have room : (List.replicate model.valueCount Value.null).length = type.fields.length :=
    List.length_replicate.trans places
  have kept : storeAll type.name type.fields
      (placeValues (List.replicate model.valueCount .null) found) =
        .ok (List.zipWith product.keptIn type.fields (record.map Value.asShown)) := by
    -- The places are gone through, not the model's fields: some places belong to none of them.
    refine storeAll_eq_ok (length_placeValues.trans room) (List.forall₂_iff_get.mpr ⟨?_, ?_⟩)
    · rw [List.length_zip, length_placeValues, room, List.length_zipWith, List.length_map,
        holds.length_eq]
    · intro place inside within
      simp only [List.get_eq_getElem, List.getElem_zip, List.getElem_zipWith]
      rw [List.length_zip] at inside
      rw [List.length_zipWith] at within
      have written : place < (record.map Value.asShown).length := by omega
      rw [← valueAt_of_lt written, valueAt_map_asShown]
      have filled : place < (placeValues (List.replicate model.valueCount .null) found).length := by
        omega
      have restored := DatabaseProduct.restores_placed supported marks resolves fieldsEqual restores
        (List.getElem?_eq_getElem filled)
      exact restored.store supported (List.getElem?_eq_getElem (by omega))
  refine ⟨arguments, sent, given, bound, ?_⟩
  have cells : decodeCells (sent.map WireArgument.cell) 0 model.fields = .ok found := decoded
  simp only [RecordType.ofRow, cells, RecordType.ofValues, kept, Except.mapError]

/-- Records survive being stored and loaded. The columns of a selection are those of the model's
fields in their order. If the values of all mapped fields are bound in that order, as an insertion
binds them, and the row of their cells is loaded, there is a record again: it has what the product
keeps of every mapped value as it is written, and nothing in the fields that are kept out of the
database. All values are written as they are exactly if their leap seconds are in their places. -/
theorem DatabaseProduct.returns_record (product : DatabaseProduct) {type : RecordType}
    {model : Model} {record : Record} (supported : type.IsSupported) (marks : type.MarksAlone)
    (resolves : type.ResolvesTo model) (holds : type.Holds record)
    (plain : ∀ value ∈ record, value.hasPlainYear = true) :
    (∀ filters order limit offset statement,
      selectStatement model product.dialect filters order limit offset = .ok statement →
        ∃ rest, statement.sql = "SELECT " ++
          ", ".intercalate (model.fields.map product.dialect.selectColumn) ++ rest) ∧
    (∃ arguments sent, model.fields.mapM (fieldArgument record) = .ok arguments ∧
      arguments.mapM product.dialect.bindArgument = .ok sent ∧
      type.ofRow model (sent.map WireArgument.cell) =
        .ok (List.zipWith product.keptIn type.fields (record.map Value.asShown))) ∧
    (record.map Value.asShown = record ↔ ∀ value ∈ record, value.hasPlainSecond = true) :=
  ⟨fun _ _ _ _ _ built => selectStatement_columns built,
    product.restores_record supported marks resolves holds plain, map_asShown_eq_self_iff⟩

/-! ### A record to look at -/

/-- A record type with a field kept out of the database between others. -/
def departure : RecordType where
  identity := 0
  name := "Departure"
  table := none
  fields := [⟨"id", .typed ⟨.integer .int64, false⟩, "primaryKey"⟩,
    ⟨"cache", .keptOut "Cache", " - "⟩, ⟨"gate", .typed ⟨.integer .int8, true⟩, ""⟩,
    ⟨"boards", .typed ⟨.time, false⟩, ""⟩, ⟨"leaves", .typed ⟨.instant, true⟩, "null"⟩]
  hooks := []
  answers := []

/-- A departure at the last gate there can be and in a leap second of the last year. -/
def lastDeparture : Record :=
  [.bigInt (-9223372036854775808), .null, .smallInt (-128),
    .time ⟨23, 59, 59, 1999999999, by decide⟩,
    .timestamp ⟨⟨9999, 12, 31, by decide⟩, ⟨23, 59, 59, 1000000001, by decide⟩⟩]

theorem departure_isSupported : departure.IsSupported where
  names := by decide
  storage := by
    intro field member
    simp only [departure, List.mem_cons, List.not_mem_nil, or_false] at member
    rcases member with rfl | rfl | rfl | rfl | rfl
    · exact .inr ⟨by decide, _, rfl⟩
    · exact .inl ⟨by decide, _, rfl⟩
    · exact .inr ⟨by decide, _, rfl⟩
    · exact .inr ⟨by decide, _, rfl⟩
    · exact .inr ⟨by decide, _, rfl⟩

theorem departure_holds : departure.Holds lastDeparture := by
  refine .cons ?_ (.cons ?_ (.cons ?_ (.cons ?_ (.cons ?_ .nil)))) <;>
    · intro columnType same
      cases same <;> decide

theorem departure_marksAlone : departure.MarksAlone := by
  decide +kernel

theorem departure_exists_resolvesTo : ∃ model, departure.ResolvesTo model := by
  have accepted : (Schema.resolve .snakeCasePlural departure.descriptor).2.toOption.isSome := by
    decide +kernel
  obtain ⟨model, found⟩ := Option.isSome_iff_exists.mp accepted
  rw [Outcome.toOption_eq_some] at found
  exact ⟨model, .snakeCasePlural, found⟩

/-- From MySQL the last departure comes back in its leap second, cut off to the microsecond. -/
theorem returns_record_lastDeparture :
    departure.IsSupported ∧ departure.MarksAlone ∧ departure.Holds lastDeparture ∧
      (∀ value ∈ lastDeparture, value.hasPlainYear = true) ∧
      ∃ model arguments sent, departure.ResolvesTo model ∧
        model.fields.mapM (fieldArgument lastDeparture) = .ok arguments ∧
        arguments.mapM Dialect.mySql.bindArgument = .ok sent ∧
        departure.ofRow model (sent.map WireArgument.cell) = .ok
          [.bigInt (-9223372036854775808), .null, .smallInt (-128),
            .time ⟨23, 59, 59, 1999999000, by decide⟩,
            .timestamp ⟨⟨9999, 12, 31, by decide⟩, ⟨23, 59, 59, 1000000000, by decide⟩⟩] := by
  have plain : ∀ value ∈ lastDeparture, value.hasPlainYear = true := by decide
  obtain ⟨model, resolves⟩ := departure_exists_resolvesTo
  obtain ⟨-, ⟨arguments, sent, given, bound, loaded⟩, -⟩ := DatabaseProduct.mySql.returns_record
    departure_isSupported departure_marksAlone resolves departure_holds plain
  exact ⟨departure_isSupported, departure_marksAlone, departure_holds, plain, model, arguments,
    sent, resolves, given, bound, loaded⟩

/-- A departure with leap seconds that do not end a minute. -/
def strayDeparture : Record :=
  [.bigInt 1, .null, .null, .time ⟨23, 56, 4, 1666666666, by decide⟩,
    .timestamp ⟨⟨2024, 2, 29, by decide⟩, ⟨10, 0, 7, 1250000000, by decide⟩⟩]

/-- Not every record comes back up to the digits that are cut off: leap seconds that do not end a
minute come back as the seconds after them. -/
theorem strayDeparture_changed :
    departure.IsSupported ∧ departure.MarksAlone ∧ departure.Holds strayDeparture ∧
      (∀ value ∈ strayDeparture, value.hasPlainYear = true) ∧
      ∃ model arguments sent, departure.ResolvesTo model ∧
        model.fields.mapM (fieldArgument strayDeparture) = .ok arguments ∧
        arguments.mapM Dialect.sqlite.bindArgument = .ok sent ∧
        departure.ofRow model (sent.map WireArgument.cell) = .ok
          [.bigInt 1, .null, .null, .time ⟨23, 56, 5, 666666000, by decide⟩,
            .timestamp ⟨⟨2024, 2, 29, by decide⟩, ⟨10, 0, 8, 250000000, by decide⟩⟩] ∧
        departure.ofRow model (sent.map WireArgument.cell) ≠
          .ok (List.zipWith DatabaseProduct.sqlite.keptIn departure.fields strayDeparture) := by
  have holds : departure.Holds strayDeparture := by
    refine .cons ?_ (.cons ?_ (.cons ?_ (.cons ?_ (.cons ?_ .nil)))) <;>
      · intro columnType same
        cases same <;> decide
  have plain : ∀ value ∈ strayDeparture, value.hasPlainYear = true := by decide
  obtain ⟨model, resolves⟩ := departure_exists_resolvesTo
  obtain ⟨arguments, sent, given, bound, loaded⟩ := DatabaseProduct.sqlite.restores_record
    departure_isSupported departure_marksAlone resolves holds plain
  refine ⟨departure_isSupported, departure_marksAlone, holds, plain, model, arguments, sent,
    resolves, given, bound, loaded, fun same => ?_⟩
  exact absurd (Except.ok.inj (loaded.symm.trans same)) (by decide)

end RecordMapper
