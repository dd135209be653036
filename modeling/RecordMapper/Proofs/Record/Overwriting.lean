/-
This file says when a field of a record can be overwritten. A record type answers to the names of
all fields that its model maps, so overwriting one of them can fail by the value only. Where every
field is either kept out of the database or typed, and no two share a name, the field that is
overwritten is the one that the model's field stands for, and its type decides: it takes exactly
the values that it holds.
-/

import RecordMapper.Proofs.Schema.Resolved
import RecordMapper.Proofs.Value.Holding

namespace RecordMapper

/-! ### Names that a record type answers to -/

/-- The mark for it leaves a field out. -/
theorem FieldTag.isIgnored_of_isLoneMark {text : String} (marked : isLoneMark text = true) :
    (parse text).isIgnored = true := by
  unfold parse
  rw [if_pos marked]

/-- Only those fields of a record type are kept out of the database that their tags leave out. -/
def RecordType.KeepsOutIgnored (type : RecordType) : Prop :=
  ∀ field ∈ type.fields, ∀ typeName, field.storage = .keptOut typeName →
    (FieldTag.parse field.tag).isIgnored = true

namespace RecordType

variable {type : RecordType} {model : Model} {field : Field} {declared : RecordField}

/-- A record type answers to the names of its model's fields. -/
theorem KeepsOutIgnored.answersTo (consistent : type.KeepsOutIgnored)
    (stands : field.StandsFor type declared) : declared.answersTo field.name = true := by
  have member := List.mem_of_getElem? stands.place
  unfold RecordField.answersTo
  rw [stands.name, beq_self_eq_true, Bool.true_and]
  split
  · rename_i typeName stored
    have ignored := consistent declared member typeName stored
    rw [stands.isMapped] at ignored
    cases ignored
  · rfl

/-- Where a field of the model cannot be overwritten, it is because of the value. -/
theorem setValue_eq_error (resolves : type.ResolvesTo model) (consistent : type.KeepsOutIgnored)
    (member : field ∈ model.fields) {record : Record} {value : Value} {error : Error}
    (failed : type.setValue record field.name value = .error error) :
    ∃ fault, error = .conversion fault := by
  obtain ⟨declared, stands⟩ := resolves.standsFor member
  have listed := List.mem_of_getElem? stands.place
  unfold setValue at failed
  split at failed
  · rename_i unfound
    exact absurd (consistent.answersTo stands)
      (by simpa using List.findIdx?_eq_none_iff.mp unfound declared listed)
  · rename_i place found
    obtain ⟨within, -⟩ := List.findIdx?_eq_some_iff_getElem.mp found
    rw [List.getElem?_eq_getElem within] at failed
    dsimp only at failed
    split at failed
    · cases failed
      exact ⟨_, rfl⟩
    · cases failed

/-- Where no two fields share a name, overwriting a field of the model is storing a value at the
field's place, as the field that it stands for does. -/
theorem setValue_of_names (names : (type.fields.map RecordField.name).Nodup)
    (consistent : type.KeepsOutIgnored) (stands : field.StandsFor type declared) (record : Record)
    (value : Value) :
    type.setValue record field.name value =
      ((declared.store type.name (some value)).mapError .conversion).map
        fun kept => record.set field.position kept := by
  obtain ⟨within, found⟩ := List.getElem?_eq_some_iff.mp stands.place
  have first : type.fields.findIdx? (fun other => other.answersTo field.name) =
      some field.position := by
    refine List.findIdx?_eq_some_iff_getElem.mpr ⟨within, ?_, fun earlier before => ?_⟩
    · rw [found]
      exact consistent.answersTo stands
    · have inside := Nat.lt_trans before within
      have apart : (type.fields[earlier]).name ≠ declared.name := by
        intro same
        have shared : (type.fields.map RecordField.name)[earlier]? =
            (type.fields.map RecordField.name)[field.position]? := by
          rw [List.getElem?_map, List.getElem?_map, List.getElem?_eq_getElem inside, stands.place,
            Option.map_some, Option.map_some, same]
        have listed : earlier < (type.fields.map RecordField.name).length := by
          rwa [List.length_map]
        exact Nat.ne_of_lt before ((List.getElem?_inj listed names).mp shared)
      rw [stands.name]
      simp [RecordField.answersTo, apart]
  unfold RecordType.setValue
  rw [first]
  dsimp only
  rw [stands.place]
  dsimp only
  cases declared.store type.name (some value) <;> rfl

/-! ### Supported record types -/

/-- A record type is supported if no two of its fields share a name and each field is typed, or
else is kept out of the database, which its tag then says and nothing else. -/
structure IsSupported (type : RecordType) : Prop where
  names : (type.fields.map RecordField.name).Nodup
  storage : ∀ field ∈ type.fields,
    (FieldTag.isLoneMark field.tag = true ∧ ∃ typeName, field.storage = .keptOut typeName) ∨
      (FieldTag.isLoneMark field.tag = false ∧ ∃ columnType, field.storage = .typed columnType)

theorem IsSupported.keepsOutIgnored (supported : type.IsSupported) : type.KeepsOutIgnored := by
  intro field member typeName stored
  rcases supported.storage field member with ⟨marked, -⟩ | ⟨-, columnType, typed⟩
  · exact FieldTag.isIgnored_of_isLoneMark marked
  · rw [stored] at typed
    cases typed

/-- The type of a record's value at a place, if the field there is typed. -/
def typeAt? (type : RecordType) (place : Nat) : Option ColumnType :=
  type.fields[place]?.bind fun declared =>
    match declared.storage with
    | .typed columnType => some columnType
    | _ => none

theorem typeAt?_eq_some {place : Nat} {columnType : ColumnType} :
    type.typeAt? place = some columnType ↔
      ∃ declared, type.fields[place]? = some declared ∧ declared.storage = .typed columnType := by
  unfold typeAt?
  rw [Option.bind_eq_some_iff]
  refine exists_congr fun declared => and_congr_right fun _ => ?_
  cases declared.storage <;> simp

/-- Each field of a record type is typed, or else is kept out of the database, which its tag then
says and nothing else. -/
def HasTypes (type : RecordType) : Prop :=
  ∀ field ∈ type.fields,
    (FieldTag.isLoneMark field.tag = true ∧ ∃ typeName, field.storage = .keptOut typeName) ∨
      (FieldTag.isLoneMark field.tag = false ∧ ∃ columnType, field.storage = .typed columnType)

theorem IsSupported.hasTypes (supported : type.IsSupported) : type.HasTypes :=
  supported.storage

/-- A field of the model of a record type that has types stands for a typed field, whose kind it
has. -/
theorem HasTypes.typeAt? (types : type.HasTypes) (resolves : type.ResolvesTo model)
    (member : field ∈ model.fields) :
    ∃ columnType, type.typeAt? field.position = some columnType ∧ field.kind = columnType.kind := by
  obtain ⟨declared, stands⟩ := resolves.standsFor member
  rcases types declared (List.mem_of_getElem? stands.place) with
    ⟨marked, -⟩ | ⟨-, columnType, typed⟩
  · have ignored := FieldTag.isIgnored_of_isLoneMark marked
    rw [stands.isMapped] at ignored
    cases ignored
  · refine ⟨columnType, ?_, ?_⟩
    · exact typeAt?_eq_some.mpr ⟨declared, stands.place, typed⟩
    · rw [stands.kind]
      simp [RecordField.descriptor, typed]

/-- A field of the model of a supported record type stands for a typed field, whose kind it has. -/
theorem IsSupported.typeAt? (supported : type.IsSupported) (resolves : type.ResolvesTo model)
    (member : field ∈ model.fields) :
    ∃ columnType, type.typeAt? field.position = some columnType ∧ field.kind = columnType.kind :=
  supported.hasTypes.typeAt? resolves member

/-- Overwriting a field of the model of a supported record type is storing a value at the field's
place under the type there. -/
theorem IsSupported.setValue (supported : type.IsSupported) (resolves : type.ResolvesTo model)
    (member : field ∈ model.fields) {columnType : ColumnType}
    (typed : type.typeAt? field.position = some columnType) (record : Record) (value : Value) :
    type.setValue record field.name value =
      ((columnType.decodeField type.name field.name (some value)).mapError .conversion).map
        fun kept => record.set field.position kept := by
  obtain ⟨declared, stands⟩ := resolves.standsFor member
  have stored : declared.storage = .typed columnType := by
    obtain ⟨other, found, stored⟩ := typeAt?_eq_some.mp typed
    cases stands.place.symm.trans found
    exact stored
  rw [setValue_of_names supported.names supported.keepsOutIgnored stands]
  unfold RecordField.store
  rw [stored, stands.name]

/-- A supported record type stores absence or a value of the right variant for a field if the type
at the field's place holds it, and then as it is. -/
theorem IsSupported.setValue_eq_ok (supported : type.IsSupported)
    (resolves : type.ResolvesTo model) (member : field ∈ model.fields) {columnType : ColumnType}
    (typed : type.typeAt? field.position = some columnType) {record written : Record}
    {value : Value} (fits : value = .null ∨ columnType.kind.names value = true) :
    type.setValue record field.name value = .ok written ↔
      columnType.holds value = true ∧ written = record.set field.position value := by
  rw [supported.setValue resolves member typed]
  unfold ColumnType.decodeField
  simp only [Outcome.map_eq_ok, Outcome.mapError_eq_ok, Option.getD_some,
    ColumnType.convert_eq_ok fits]
  constructor
  · rintro ⟨_, ⟨held, rfl⟩, rfl⟩
    exact ⟨held, rfl⟩
  · rintro ⟨held, rfl⟩
    exact ⟨value, ⟨held, rfl⟩, rfl⟩

end RecordType

end RecordMapper
