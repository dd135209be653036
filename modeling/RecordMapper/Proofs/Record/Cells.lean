/-
This file says what record a row makes. A cell has a value for the field that it stands for if it
can be read as the field's kind and if the field of the record type keeps something of what is read.
Loading first reads all cells, puts what was read at the places of the fields and then stores the
values of all places. So a row makes a record exactly if every cell has a value and if the fields
that the model leaves out put up with absence; the record then has the values of the cells at the
places of their fields and nothing anywhere else.
-/

import RecordMapper.Proofs.Record.Overwriting
import RecordMapper.Proofs.Record.Placing

namespace RecordMapper

/-! ### Computations by place -/

namespace Outcome

variable {Fault First Second : Type}

/-- Each member of a list has a result that is computed for it and its place, counted from a
start. -/
def Each (start : Nat) (compute : Nat → First → Except Fault Second) (given : List First)
    (results : List Second) : Prop :=
  results.length = given.length ∧ ∀ place value, given[place]? = some value →
    ∃ result, results[place]? = some result ∧ compute (start + place) value = .ok result

variable {start : Nat} {compute : Nat → First → Except Fault Second} {given : List First}
  {value : First} {results : List Second}

/-- A member of the list has a result at its place. -/
theorem Each.result (each : Each 0 compute given results) {place : Nat}
    (listed : given[place]? = some value) :
    ∃ result, results[place]? = some result ∧ compute place value = .ok result := by
  have found := each.2 place value listed
  rwa [Nat.zero_add] at found

theorem each_nil : Each start compute [] results ↔ results = [] := by
  refine ⟨fun each => List.length_eq_zero_iff.mp each.1, ?_⟩
  rintro rfl
  exact ⟨rfl, nofun⟩

/-- The first member has a result at the first place, and the others have theirs at the places
after it. -/
theorem each_cons :
    Each start compute (value :: given) results ↔
      ∃ result rest, results = result :: rest ∧ compute start value = .ok result ∧
        Each (start + 1) compute given rest := by
  have shifted (place : Nat) : start + 1 + place = start + (place + 1) := by omega
  unfold Each
  simp only [shifted]
  constructor
  · rintro ⟨lengths, each⟩
    obtain ⟨result, found, computed⟩ := each 0 value rfl
    cases results with
    | nil => cases found
    | cons first rest =>
      obtain rfl : first = result := Option.some.inj found
      exact ⟨first, rest, rfl, computed, Nat.succ.inj lengths, fun place => each (place + 1)⟩
  · rintro ⟨result, rest, rfl, computed, lengths, each⟩
    refine ⟨congrArg Nat.succ lengths, fun place other listed => ?_⟩
    cases place with
    | zero =>
      cases listed
      exact ⟨result, rfl, computed⟩
    | succ place => exact each place other listed

/-- If all computations succeed there is a list of their results. -/
theorem exists_each (succeeds : ∀ place value, given[place]? = some value →
      ∃ result, compute (start + place) value = .ok result) :
    ∃ results, Each start compute given results := by
  induction given generalizing start with
  | nil => exact ⟨[], each_nil.mpr rfl⟩
  | cons value rest inductionHypothesis =>
    obtain ⟨first, computed⟩ := succeeds 0 value rfl
    have later (place : Nat) (other : First) (listed : rest[place]? = some other) :
        ∃ result, compute (start + 1 + place) other = .ok result := by
      rw [Nat.add_right_comm, Nat.add_assoc]
      exact succeeds (place + 1) other listed
    obtain ⟨others, each⟩ := inductionHypothesis later
    exact ⟨first :: others, each_cons.mpr ⟨first, others, rfl, computed, each⟩⟩

end Outcome

open Outcome

/-! ### Values of all fields -/

/-- A field that is given nothing keeps nothing, if it does not refuse. -/
theorem RecordField.eq_null_of_store {field : RecordField} {record : String} {value : Value}
    (stored : field.store record (some .null) = .ok value) : value = .null := by
  unfold store at stored
  split at stored
  · cases stored
    rfl
  · obtain ⟨-, rfl⟩ := (ColumnType.convert_eq_ok (.inl rfl)).mp (mapError_eq_ok.mp stored)
    rfl
  · cases stored
    rfl

/-- The fields of a record type keep results if each keeps one of the value at its place. -/
theorem storeAll_drop_eq_ok {name : String} {fields : List RecordField} {start : Nat}
    {values results : List Value} :
    storeAll name fields (values.drop start) = .ok results ↔
      Each start (fun place field => field.store name values[place]?) fields results := by
  induction fields generalizing start results with
  | nil => rw [each_nil, storeAll, Except.ok.injEq, eq_comm]
  | cons field rest inductionHypothesis =>
    rw [each_cons, storeAll, List.head?_drop, List.tail_drop]
    simp only [← inductionHypothesis]
    cases field.store name values[start]? with
    | error fault => simp
    | ok kept =>
      simp only [map_eq_ok]
      constructor
      · rintro ⟨rest, stored, rfl⟩
        exact ⟨kept, rest, rfl, rfl, stored⟩
      · rintro ⟨_, rest, rfl, same, stored⟩
        cases same
        exact ⟨rest, stored, rfl⟩

/-- What a cell of a row is read as for a field. -/
def readCell (row : Row) (column : Nat) (field : Field) : Except DatabaseFault Value :=
  Wire.decode row column field.kind

/-- The cells of a row are read if each can be read for its field. -/
theorem decodeCells_eq_ok {row : Row} {column : Nat} {fields : List Field}
    {found : List (Field × Value)} :
    decodeCells row column fields = .ok found ↔
      ∃ reads, Each column (readCell row) fields reads ∧ found = fields.zip reads := by
  induction fields generalizing column found with
  | nil =>
    simp only [each_nil, decodeCells, Except.ok.injEq, exists_eq_left, List.zip_nil_left, eq_comm]
  | cons field rest inductionHypothesis =>
    simp only [each_cons, decodeCells, readCell]
    cases Wire.decode row column field.kind with
    | error fault => simp
    | ok read =>
      simp only [map_eq_ok, inductionHypothesis]
      constructor
      · rintro ⟨_, ⟨reads, each, rfl⟩, rfl⟩
        exact ⟨read :: reads, ⟨read, reads, rfl, rfl, each⟩, rfl⟩
      · rintro ⟨_, ⟨_, reads, rfl, same, each⟩, rfl⟩
        cases same
        exact ⟨_, ⟨reads, each, rfl⟩, rfl⟩

/-! ### Values of cells -/

namespace RecordType

/-- What the field of a record type that a field of its model stands for keeps of a cell. -/
def valueOfCell (type : RecordType) (row : Row) (column : Nat) (field : Field) :
    Except Error Value :=
  match readCell row column field with
  | .error fault => .error (.database fault)
  | .ok read =>
    match type.fields[field.position]? with
    | none => .error (.unknownColumn type.name field.name)
    | some declared => (declared.store type.name (some read)).mapError .conversion

/-- The cells of a row have values for all fields of a model. -/
def Keeps (type : RecordType) (model : Model) (row : Row) (kept : List Value) : Prop :=
  Each 0 (type.valueOfCell row) model.fields kept

/-- Every field that its tag leaves out puts up with absence. -/
def ToleratesAbsence (type : RecordType) : Prop :=
  ∀ declared ∈ type.fields, (FieldTag.parse declared.tag).isIgnored = true →
    declared.store type.name (some .null) = .ok .null

variable {type : RecordType} {model : Model} {field : Field} {declared : RecordField} {row : Row}
  {column : Nat} {value : Value}

theorem valueOfCell_eq_ok (stands : field.StandsFor type declared) :
    type.valueOfCell row column field = .ok value ↔
      ∃ read, readCell row column field = .ok read ∧
        declared.store type.name (some read) = .ok value := by
  unfold valueOfCell
  cases readCell row column field with
  | error fault => simp
  | ok read => simp [stands.place, mapError_eq_ok]

/-! ### Places -/

/-- A place of a record type is that of a field of its model, or that of a field that its tag leaves
out. -/
theorem ResolvesTo.place_cases (resolves : type.ResolvesTo model) {place : Nat}
    (found : type.fields[place]? = some declared) :
    (∃ (column : Nat) (field : Field), model.fields[column]? = some field ∧ field.position = place ∧
      field.StandsFor type declared) ∨
    ((FieldTag.parse declared.tag).isIgnored = true ∧
      ∀ field ∈ model.fields, field.position ≠ place) := by
  cases leftOut : (FieldTag.parse declared.tag).isIgnored with
  | false =>
    obtain ⟨field, member, same, stands⟩ := resolves.exists_standsFor found leftOut
    obtain ⟨column, listed⟩ := List.mem_iff_getElem?.mp member
    exact .inl ⟨column, field, listed, same, stands⟩
  | true =>
    refine .inr ⟨rfl, fun field member same => ?_⟩
    obtain ⟨other, stands⟩ := resolves.standsFor member
    cases found.symm.trans (same ▸ stands.place)
    rw [stands.isMapped] at leftOut
    cases leftOut

variable {record : Record} {values : List Value}

/-- A value that is given for a field of the model is at the field's place. -/
theorem ResolvesTo.placed (resolves : type.ResolvesTo model)
    (complete : record.length = type.fields.length) (listed : model.fields[column]? = some field)
    (given : values[column]? = some value) :
    (placeValues record (model.fields.zip values))[field.position]? = some value := by
  obtain ⟨declared, stands⟩ := resolves.standsFor (List.mem_of_getElem? listed)
  obtain ⟨inside, -⟩ := List.getElem?_eq_some_iff.mp stands.place
  exact getElem?_placeValues_of_mem (pairwise_position_zip resolves.positions values)
    (List.mem_of_getElem? (List.getElem?_zip_eq_some.mpr ⟨listed, given⟩)) (complete ▸ inside)

/-- A place that no field of the model has is as it was. -/
theorem unplaced {place : Nat} (vacant : ∀ field ∈ model.fields, field.position ≠ place) :
    (placeValues record (model.fields.zip values))[place]? = record[place]? :=
  getElem?_placeValues fun pair member => vacant pair.1 (List.of_mem_zip member).1

/-! ### Records of rows -/

/-- The record that has nothing yet. -/
def blank (type : RecordType) : Record :=
  List.replicate type.fields.length .null

theorem blank_getElem? {place : Nat} (found : type.fields[place]? = some declared) :
    type.blank[place]? = some .null := by
  obtain ⟨inside, -⟩ := List.getElem?_eq_some_iff.mp found
  exact List.getElem?_replicate_of_lt inside

/-- A row makes a record if its cells are read, what is read is put at the places of the fields and
all fields keep what is at their places. -/
theorem ofRow_eq_ok_iff (resolves : type.ResolvesTo model) :
    type.ofRow model row = .ok record ↔
      ∃ reads, Each 0 (readCell row) model.fields reads ∧
        Each 0 (fun place declared => declared.store type.name
          (placeValues type.blank (model.fields.zip reads))[place]?) type.fields record := by
  obtain ⟨-, -, places, -⟩ := resolves.maps
  unfold ofRow ofValues
  rw [places]
  constructor
  · intro made
    split at made
    · cases made
    · rename_i found decoded
      obtain ⟨reads, each, rfl⟩ := decodeCells_eq_ok.mp decoded
      exact ⟨reads, each, storeAll_drop_eq_ok.mp (mapError_eq_ok.mp made)⟩
  · rintro ⟨reads, each, kept⟩
    rw [decodeCells_eq_ok.mpr ⟨reads, each, rfl⟩]
    exact mapError_eq_ok.mpr (storeAll_drop_eq_ok.mpr kept)

theorem length_blank (type : RecordType) : type.blank.length = type.fields.length :=
  List.length_replicate

/-- A row whose cells have values makes a record of them if the fields that are left out put up with
absence. -/
theorem ofRow_of_keeps (resolves : type.ResolvesTo model) {kept : List Value}
    (keeps : type.Keeps model row kept) (tolerates : type.ToleratesAbsence) :
    type.ofRow model row = .ok (placeValues type.blank (model.fields.zip kept)) := by
  have readable (column : Nat) (field : Field) (listed : model.fields[column]? = some field) :
      ∃ read, readCell row (0 + column) field = .ok read := by
    obtain ⟨value, -, computed⟩ := keeps.result listed
    obtain ⟨declared, stands⟩ := resolves.standsFor (List.mem_of_getElem? listed)
    rw [Nat.zero_add]
    exact ((valueOfCell_eq_ok stands).mp computed).imp fun _ facts => facts.1
  obtain ⟨reads, each⟩ := exists_each readable
  have stores (place : Nat) (declared : RecordField) (found : type.fields[place]? = some declared) :
      ∃ value, (placeValues type.blank (model.fields.zip kept))[place]? = some value ∧
        declared.store type.name (placeValues type.blank (model.fields.zip reads))[place]? =
          .ok value := by
    rcases resolves.place_cases found with ⟨column, field, listed, rfl, stands⟩ | ⟨leftOut, vacant⟩
    · obtain ⟨read, given, decoded⟩ := each.result listed
      obtain ⟨value, keptHere, computed⟩ := keeps.result listed
      obtain ⟨other, again, stored⟩ := (valueOfCell_eq_ok stands).mp computed
      cases decoded.symm.trans again
      rw [resolves.placed type.length_blank listed given]
      exact ⟨value, resolves.placed type.length_blank listed keptHere, stored⟩
    · rw [unplaced vacant, unplaced vacant, blank_getElem? found]
      exact ⟨.null, rfl, tolerates declared (List.mem_of_getElem? found) leftOut⟩
  exact (ofRow_eq_ok_iff resolves).mpr
    ⟨reads, each, length_placeValues.trans type.length_blank, fun place declared found => by
      rw [Nat.zero_add]
      exact stores place declared found⟩

/-- The cells of a row that makes a record have values, and the fields that are left out put up with
absence. -/
theorem keeps_of_ofRow (resolves : type.ResolvesTo model)
    (made : type.ofRow model row = .ok record) :
    (∃ kept, type.Keeps model row kept) ∧ type.ToleratesAbsence := by
  obtain ⟨reads, each, stores⟩ := (ofRow_eq_ok_iff resolves).mp made
  refine ⟨exists_each fun column field listed => ?_, fun declared member leftOut => ?_⟩
  · rw [Nat.zero_add]
    obtain ⟨declared, stands⟩ := resolves.standsFor (List.mem_of_getElem? listed)
    obtain ⟨read, given, decoded⟩ := each.result listed
    obtain ⟨value, -, stored⟩ := stores.result stands.place
    rw [resolves.placed type.length_blank listed given] at stored
    exact ⟨value, (valueOfCell_eq_ok stands).mpr ⟨read, decoded, stored⟩⟩
  · obtain ⟨place, found⟩ := List.mem_iff_getElem?.mp member
    rcases resolves.place_cases found with ⟨_, _, -, -, stands⟩ | ⟨-, vacant⟩
    · rw [stands.isMapped] at leftOut
      cases leftOut
    · obtain ⟨value, -, stored⟩ := stores.result found
      rw [unplaced vacant, blank_getElem? found] at stored
      rwa [RecordField.eq_null_of_store stored] at stored

end RecordType

end RecordMapper
