/-
This file proves that a record that has been inserted and read back shows what a record shows that
is loaded from the same row. Reading back overwrites the fields of the record one by one, each as
soon as its cell is read; loading reads all cells before any value is stored. Both come to the same
values of the cells. They succeed for the same rows where the fields that the model leaves out are
those that the record keeps out of the database, since such a field takes the absence that loading
has for it.
-/

import RecordMapper.Proofs.Query.Inserting
import RecordMapper.Proofs.Record.Cells
import RecordMapper.Proofs.Record.RoundTrip

namespace RecordMapper

open Operation Outcome Query

/-! ### Fields that are kept out -/

/-- Whether a field is kept out of the database. -/
def FieldStorage.isKeptOut : FieldStorage → Bool
  | .keptOut _ => true
  | _ => false

namespace RecordType

/-- Those fields are kept out of the database whose tags are the mark for it and nothing else. -/
def KeepsOutMarked (type : RecordType) : Prop :=
  ∀ field ∈ type.fields, field.storage.isKeptOut = FieldTag.isLoneMark field.tag

instance (type : RecordType) : Decidable type.KeepsOutMarked :=
  inferInstanceAs (Decidable (∀ field ∈ type.fields, _ = _))

variable {type : RecordType} {model : Model} {field : Field} {record : Record} {row : Row}
  {column : Nat}

theorem KeepsOutMarked.keepsOutIgnored (keepsOut : type.KeepsOutMarked) :
    type.KeepsOutIgnored := by
  intro field member typeName stored
  refine FieldTag.isIgnored_of_isLoneMark ?_
  rw [← keepsOut field member, stored]
  rfl

/-- Where marks stand alone, all fields that their tags leave out are kept out of the database, and
they put up with absence. -/
theorem KeepsOutMarked.toleratesAbsence (keepsOut : type.KeepsOutMarked)
    (marks : type.MarksAlone) : type.ToleratesAbsence := by
  intro declared member leftOut
  have marked : FieldTag.isLoneMark declared.tag = true := by
    by_contra unmarked
    rw [marks.isMapped member (Bool.eq_false_iff.mpr unmarked)] at leftOut
    cases leftOut
  rw [← keepsOut declared member] at marked
  unfold FieldStorage.isKeptOut at marked
  split at marked
  · rename_i typeName stored
    rw [RecordField.store, stored]
  · cases marked

end RecordType

/-! ### Copying cells -/

section

variable {type : RecordType} {model : Model} {row : Row} {column : Nat} {field : Field}
  {fields : List Field} {record left : Record} {exchanges : List Exchange}
  {outcome : Except Error Unit}

/-- Copying cells goes on if the first has a value, with the value at the place of its field, and
fails if it has none. -/
theorem runs_copyCells_cons (names : (type.fields.map RecordField.name).Nodup)
    (consistent : type.KeepsOutIgnored) (resolves : type.ResolvesTo model)
    (member : field ∈ model.fields)
    (runs : Runs (copyCells type row column (field :: fields)) record exchanges outcome left) :
    (∃ value closing, type.valueOfCell row column field = .ok value ∧
      Runs (copyCells type row (column + 1) fields) (record.set field.position value) closing
        outcome left) ∨
    ((∀ value, type.valueOfCell row column field ≠ .ok value) ∧
      ∃ error, outcome = .error error) := by
  obtain ⟨declared, stands⟩ := resolves.standsFor member
  have overwrites := RecordType.setValue_of_names names consistent stands record
  rcases runs_ofExcept_bind.mp runs with ⟨error, failed, -, rfl, -⟩ | ⟨read, decoded, copied⟩
  · refine .inr ⟨fun value valued => ?_, error, rfl⟩
    obtain ⟨read, decoded, -⟩ := (RecordType.valueOfCell_eq_ok stands).mp valued
    have failed : (readCell row column field).mapError Error.database = .error error := failed
    rw [decoded] at failed
    cases failed
  have decoded : readCell row column field = .ok read := mapError_eq_ok.mp decoded
  rcases runs_bind.mp copied with ⟨error, refused, rfl⟩ |
    ⟨opening, _, middle, closing, rfl, overwritten, later⟩
  · obtain ⟨-, ⟨_, refused, -⟩ | ⟨-, equal⟩⟩ := runs_overwrite.mp refused
    · refine .inr ⟨fun value valued => ?_, error, rfl⟩
      obtain ⟨again, decodedAgain, stored⟩ := (RecordType.valueOfCell_eq_ok stands).mp valued
      cases decoded.symm.trans decodedAgain
      rw [overwrites, stored] at refused
      cases refused
    · cases equal
  · obtain ⟨-, ⟨_, -, equal, -⟩ | ⟨written, -⟩⟩ := runs_overwrite.mp overwritten
    · cases equal
    rw [overwrites] at written
    obtain ⟨value, stored, rfl⟩ := map_eq_ok.mp written
    exact .inl ⟨value, closing, (RecordType.valueOfCell_eq_ok stands).mpr
      ⟨read, decoded, mapError_eq_ok.mp stored⟩, later⟩

/-- Copying the cells of a row to a record puts their values at the places of the fields, or it
fails where a cell has none. -/
theorem runs_copyCells (names : (type.fields.map RecordField.name).Nodup)
    (consistent : type.KeepsOutIgnored) (resolves : type.ResolvesTo model)
    (members : ∀ field ∈ fields, field ∈ model.fields)
    (runs : Runs (copyCells type row column fields) record exchanges outcome left) :
    (∃ kept, Each column (type.valueOfCell row) fields kept ∧ outcome = .ok () ∧
      left = placeValues record (fields.zip kept)) ∨
    ((∀ kept, ¬ Each column (type.valueOfCell row) fields kept) ∧
      ∃ error, outcome = .error error) := by
  induction fields generalizing column record exchanges with
  | nil =>
    obtain ⟨-, rfl, rfl⟩ := runs_pure.mp runs
    exact .inl ⟨[], each_nil.mpr rfl, rfl, rfl⟩
  | cons field rest inductionHypothesis =>
    obtain ⟨member, others⟩ := List.forall_mem_cons.mp members
    simp only [each_cons]
    rcases runs_copyCells_cons names consistent resolves member runs with
      ⟨value, closing, valued, later⟩ | ⟨unvalued, failed⟩
    · rcases inductionHypothesis others later with ⟨kept, each, rfl, rfl⟩ | ⟨never, failed⟩
      · exact .inl ⟨value :: kept, ⟨value, kept, rfl, valued, each⟩, rfl, rfl⟩
      · exact .inr ⟨fun kept ⟨_, later, _, _, each⟩ => never later each, failed⟩
    · exact .inr ⟨fun kept ⟨value, _, _, valued, _⟩ => unvalued value valued, failed⟩

end

/-! ### Reading back -/

/-- A record that is current before shows afterwards what a loaded one does: it has what the loaded
one has in every mapped field, and in all others it has what it had. -/
structure Refreshes (model : Model) (record loaded refreshed : Record) : Prop where
  length : refreshed.length = record.length
  mapped : ∀ field ∈ model.fields, ∃ value,
    loaded[field.position]? = some value ∧ refreshed[field.position]? = some value
  leftOut : ∀ place, (∀ field ∈ model.fields, field.position ≠ place) →
    refreshed[place]? = record[place]?

/-- Putting the values of cells on a record shows what putting them on another one does. -/
theorem refreshes_of_keeps {type : RecordType} {model : Model} {row : Row} {kept : List Value}
    {record other : Record} (resolves : type.ResolvesTo model) (keeps : type.Keeps model row kept)
    (complete : record.length = type.fields.length) (full : other.length = type.fields.length) :
    Refreshes model record (placeValues other (model.fields.zip kept))
      (placeValues record (model.fields.zip kept)) where
  length := length_placeValues
  mapped field member := by
    obtain ⟨column, listed⟩ := List.mem_iff_getElem?.mp member
    obtain ⟨value, given, -⟩ := keeps.result listed
    exact ⟨value, resolves.placed full listed given, resolves.placed complete listed given⟩
  leftOut _ vacant := RecordType.unplaced vacant

namespace Query

variable {query : Query} {model : Model} {record left : Record} {row : Row}
  {exchanges : List Exchange} {outcome : Except Error Unit}

/-- If a row is answered where a record is read back, its cells are copied to the record. -/
theorem copies_of_refresh (runs : Runs (query.refresh model) record exchanges outcome left)
    (answered : exchanges.flatMap Exchange.firstRow = [row]) :
    Runs (copyCells query.type row 0 model.fields) record [] outcome left := by
  have read := runs_held_bind.mp runs
  cases known : keyFilters? model record with
  | none =>
    rw [known] at read
    rw [(runs_report.mp read).1] at answered
    cases answered
  | some filters =>
    rw [known] at read
    rcases runs_ofExcept_bind.mp read with ⟨error, -, rfl, -⟩ | ⟨statement, -, sent⟩
    · cases answered
    rcases runs_bind.mp sent with ⟨error, failed, -⟩ |
      ⟨opening, found, middle, closing, rfl, fetched, copied⟩
    · obtain ⟨answer, asking, same⟩ := runs_during.mp failed
      rw [(runs_fetchFirst.mp asking).1] at answered
      cases answer with
      | error inner => cases answered
      | ok given => cases same
    · obtain ⟨answer, asking, same⟩ := runs_during.mp fetched
      obtain ⟨rfl, rfl⟩ := runs_fetchFirst.mp asking
      obtain rfl := mapError_eq_ok.mp same.symm
      cases found with
      | none =>
        rw [(runs_pure.mp copied).1] at answered
        cases answered
      | some delivered =>
        obtain rfl := exchanges_of_copyCells copied
        obtain rfl : delivered = row := (List.cons.inj answered).1
        exact copied

/-- Copying back ends as loading the row does: it succeeds if the row makes a record, and then the
record that is current shows what that one does. -/
def CopiesBack (type : RecordType) (model : Model) (row : Row) (record : Record)
    (ended : Except Error Unit × Record) : Prop :=
  (ended.1 = .ok () ↔ ∃ loaded, type.ofRow model row = .ok loaded) ∧
    ∀ loaded, type.ofRow model row = .ok loaded → Refreshes model record loaded ended.2

/-- Copying the cells of a row to a record agrees with loading the row. -/
theorem copiesBack_of_runs {type : RecordType}
    (resolves : type.ResolvesTo model) (names : (type.fields.map RecordField.name).Nodup)
    (keepsOut : type.KeepsOutMarked) (marks : type.MarksAlone)
    (complete : record.length = type.fields.length)
    (runs : Runs (copyCells type row 0 model.fields) record exchanges outcome left) :
    CopiesBack type model row record (outcome, left) := by
  rcases runs_copyCells names keepsOut.keepsOutIgnored resolves (fun _ member => member) runs with
    ⟨kept, each, rfl, rfl⟩ | ⟨never, error, rfl⟩
  · have made := RecordType.ofRow_of_keeps resolves each (keepsOut.toleratesAbsence marks)
    refine ⟨⟨fun _ => ⟨_, made⟩, fun _ => rfl⟩, fun loaded found => ?_⟩
    cases made.symm.trans found
    exact refreshes_of_keeps resolves each complete type.length_blank
  · have refused (loaded : Record) : type.ofRow model row ≠ .ok loaded := by
      intro found
      obtain ⟨⟨kept, keeps⟩, -⟩ := RecordType.keeps_of_ofRow resolves found
      exact never kept keeps
    exact ⟨⟨nofun, fun ⟨loaded, found⟩ => absurd found (refused loaded)⟩,
      fun loaded found => absurd found (refused loaded)⟩

/-- A record is read back as it would be loaded: copying the cells of any row to it agrees with
loading the row, and so does reading back if the row is what is answered. -/
theorem refresh_copiesBack (query : Query) {model : Model}
    (resolves : query.type.ResolvesTo model)
    (names : (query.type.fields.map RecordField.name).Nodup)
    (keepsOut : query.type.KeepsOutMarked) (marks : query.type.MarksAlone) (record : Record)
    (complete : record.length = query.type.fields.length) (row : Row) {State : Type}
    (environment : Environment State) (state : State) :
    CopiesBack query.type model row record
        ((copyCells query.type row 0 model.fields record).run environment state).1 ∧
      (((query.refresh model record).exchanges environment state).flatMap Exchange.firstRow =
          [row] →
        CopiesBack query.type model row record
          ((query.refresh model record).run environment state).1) := by
  refine ⟨?_, fun answered => ?_⟩
  · exact copiesBack_of_runs resolves names keepsOut marks complete
      (Program.runs_exchanges environment _ state)
  · have copied :=
      copies_of_refresh (Program.runs_exchanges environment _ state) answered
    exact copiesBack_of_runs resolves names keepsOut marks complete copied

/-- A record type with a field that is kept out of the database between others. -/
def berth : RecordType where
  identity := 0
  name := "Berth"
  table := none
  fields := [⟨"id", .typed ⟨.integer .int64, false⟩, "primaryKey"⟩,
    ⟨"chart", .keptOut "Chart", "-"⟩, ⟨"depth", .typed ⟨.integer .int16, true⟩, "default:40"⟩]
  hooks := []
  answers := []

/-- The query on all berths. -/
def berths : Query where
  dialect := .sqlite
  type := berth
  model := (Schema.resolve .snakeCasePlural berth.descriptor).2

/-- A berth whose depth is not known yet. -/
def newBerth : Record :=
  [.bigInt 4, .null, .null]

/-- The row that the database has made of the berth. -/
def dredged : Row :=
  [some (.bigInt 4), some (.int 40)]

/-- An environment that answers the row to whoever asks for one. -/
def harbour : Environment Unit :=
  { Environment.empty with fetchFirst := fun _ state => (.ok (some dredged), state) }

/-- A berth shows after its insertion the depth that the database has filled in. -/
theorem refresh_copiesBack_newBerth :
    (berth.fields.map RecordField.name).Nodup ∧ berth.KeepsOutMarked ∧ berth.MarksAlone ∧
      newBerth.length = berth.fields.length ∧ ∃ model, berth.ResolvesTo model ∧
        ((berths.refresh model newBerth).run harbour ()).1 =
          (.ok (), [.bigInt 4, .null, .smallInt 40]) ∧
        CopiesBack berth model dredged newBerth (.ok (), [.bigInt 4, .null, .smallInt 40]) := by
  have names : (berth.fields.map RecordField.name).Nodup := by decide
  have keepsOut : berth.KeepsOutMarked := by decide
  have marks : berth.MarksAlone := by decide +kernel
  have accepted : ((Schema.resolve .snakeCasePlural berth.descriptor).2.toOption.map fun model =>
      (((berths.refresh model newBerth).exchanges harbour ()).flatMap Exchange.firstRow,
        ((berths.refresh model newBerth).run harbour ()).1)) =
      some ([dredged], (.ok (), [.bigInt 4, .null, .smallInt 40])) := by decide +kernel
  obtain ⟨model, found, looked⟩ := Option.map_eq_some_iff.mp accepted
  rw [toOption_eq_some] at found
  obtain ⟨answered, ran⟩ := Prod.mk.inj looked
  have copies := (berths.refresh_copiesBack ⟨.snakeCasePlural, found⟩ names keepsOut marks newBerth
    rfl dredged harbour ()).2 answered
  rw [ran] at copies
  exact ⟨names, keepsOut, marks, rfl, model, ⟨.snakeCasePlural, found⟩, ran, copies⟩

end Query

end RecordMapper
