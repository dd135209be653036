/-
This file proves that every model is well formed in relation to the description that resolves to it.
Its fields are the described fields that are not left out, in their order and each with its place in
a record, so that the values of a row all find a place and none is lost. The places that it keeps of
columns, names and keys are those of its fields: a column leads to its field, a name to the last
field of that name. The keys are the fields that are described as such, and only a key that is alone
is marked. Whether a field can be absent follows one rule for all fields.
-/

import RecordMapper.Proofs.FieldTag
import RecordMapper.Proofs.Record.Placing
import RecordMapper.Proofs.Schema.Resolved

namespace RecordMapper

/-! ### Well-formed models -/

/-- A field is made of a described field at its place: it has the name and the kind of the described
field and what its tag says of keys. Absence is allowed by the tag or else by the type, but never in
a key and never where a clause of the tag forbids it. -/
structure Field.IsMadeOf (field : Field) (described : FieldDescriptor × Nat) : Prop where
  name : field.name = described.1.name
  kind : field.kind = described.1.kind
  position : field.position = described.2
  isPrimaryKey : field.isPrimaryKey = (FieldTag.parse described.1.tag).isPrimaryKey
  isRequired : field.isRequired = !field.isNullable
  isNullable : field.isNullable =
    (!field.isPrimaryKey && !(FieldTag.parse described.1.tag).isNotNull &&
      ((FieldTag.parse described.1.tag).isNull || described.1.isOptional))
  isPresent : ∀ clause ∈ FieldTag.clauses described.1.tag.toList,
    clause.comparedKey = "primarykey" ∨ clause.comparedKey = "not null" → field.isNullable = false

/-- What every reader of a model may rely on, in relation to the description it comes from. -/
structure Model.IsWellFormed (model : Model) (descriptor : RecordDescriptor) : Prop where
  /-- The fields are those that are not left out, in their order. -/
  fields : List.Forall₂ Field.IsMadeOf model.fields (Schema.mappedFrom 0 descriptor.fields)
  valueCount : model.valueCount = descriptor.fields.length
  /-- Places grow along the fields. -/
  ordered : (model.fields.map Field.position).Pairwise (· < ·)
  bounded : ∀ field ∈ model.fields, field.position < model.valueCount
  /-- Each value of a row comes to stand at the place of its field. -/
  placed : ∀ values : List Value, ∀ pair ∈ model.fields.zip values,
    (placeValues (List.replicate model.valueCount .null) (model.fields.zip values))[
      pair.1.position]? = some pair.2
  columns : model.columns.Nodup
  /-- A column is kept at the one place where a field is mapped to it. -/
  columnPlaces : ∀ column place, model.byColumn.place? column = some place ↔
    ∃ field, model.fields[place]? = some field ∧ field.column = column
  /-- A column leads to the one field that is mapped to it. -/
  byColumn : ∀ column field,
    model.fieldByColumn? column = some field ↔ field ∈ model.fields ∧ field.column = column
  /-- A key that is a column names the field of the column, whatever other fields are called. -/
  resolves : ∀ field ∈ model.fields, model.resolve? field.column = some field
  /-- A name is kept at the last place where a field has it. -/
  namePlaces : ∀ name place, model.byName.place? name = some place ↔
    (∃ field, model.fields[place]? = some field ∧ field.name = name) ∧
      ∀ later field, place < later → model.fields[later]? = some field → field.name ≠ name
  /-- A name leads to a field of that name if there is one. -/
  byName : ∀ name, (∃ field, model.field? name = some field ∧ field ∈ model.fields ∧
      field.name = name) ∨
    (model.field? name = none ∧ ∀ field ∈ model.fields, field.name ≠ name)
  /-- The places of the keys grow, and are those where a key stands. -/
  keyPlaces : model.keyPlaces.Pairwise (· < ·) ∧ ∀ place, place ∈ model.keyPlaces ↔
    ∃ field, model.fields[place]? = some field ∧ field.isPrimaryKey = true
  /-- The keys are the fields that are described as such, in their order. -/
  primaryKeys : List.Forall₂ Field.IsMadeOf model.primaryKeys
    ((Schema.mappedFrom 0 descriptor.fields).filter fun described =>
      (FieldTag.parse described.1.tag).isPrimaryKey)
  isInlineKey : ∀ field ∈ model.fields, field.isInlineKey = true ↔ model.primaryKeys = [field]

/-! ### Fields -/

/-- A tag that has a clause for a key, or one against absence, says so. -/
theorem FieldTag.isPresent_parse {text : String} {clause : Clause}
    (listed : clause ∈ FieldTag.clauses text.toList)
    (forbids : clause.comparedKey = "primarykey" ∨ clause.comparedKey = "not null") :
    ((FieldTag.parse text).isPrimaryKey || (FieldTag.parse text).isNotNull) = true := by
  rw [parse_eq_ofClauses]
  show (!(under "primarykey" _).isEmpty || !(under "not null" _).isEmpty) = true
  rw [not_isEmpty_under, not_isEmpty_under, Bool.or_eq_true]
  rcases forbids with isKey | notNull
  · exact .inl (by simpa using ⟨clause, listed, isKey⟩)
  · exact .inr (by simpa using ⟨clause, listed, notNull⟩)

namespace Schema

/-- What a described field comes to is made of it. -/
theorem Setting.Maps.isMadeOf {setting : Setting} {described : FieldDescriptor × Nat}
    {field : Field} (maps : setting.Maps described field) : field.IsMadeOf described := by
  obtain ⟨size, precision, scale, isInlineKey, rfl⟩ := maps
  have absence : isNullable (FieldTag.parse described.1.tag) described.1 =
      (!(FieldTag.parse described.1.tag).isPrimaryKey &&
        !(FieldTag.parse described.1.tag).isNotNull &&
        ((FieldTag.parse described.1.tag).isNull || described.1.isOptional)) := by
    unfold isNullable
    cases (FieldTag.parse described.1.tag).isPrimaryKey <;>
      cases (FieldTag.parse described.1.tag).isNotNull <;>
      cases (FieldTag.parse described.1.tag).isNull <;> rfl
  refine ⟨rfl, rfl, rfl, rfl, rfl, absence, fun clause listed forbids => ?_⟩
  have present := FieldTag.isPresent_parse listed forbids
  show isNullable _ _ = false
  rw [isNullable, if_pos present]

/-- The fields of a model are made of the described fields that are not left out. -/
theorem forall₂_isMadeOf {setting : Setting} {start : Nat} {described : List FieldDescriptor}
    {fields : List Field} (maps : List.Forall₂ setting.Maps (mappedFrom start described) fields) :
    List.Forall₂ Field.IsMadeOf fields (mappedFrom start described) :=
  (maps.imp fun _ _ each => each.isMadeOf).flip

/-! ### Keys -/

/-- The only key, and no other field, is marked. -/
theorem isInlineKey_markSoleKey {fields : List Field}
    (unmarked : ∀ each ∈ fields, each.isInlineKey = false) {field : Field}
    (member : field ∈ markSoleKey fields) :
    field.isInlineKey = true ↔ (markSoleKey fields).filter Field.isPrimaryKey = [field] := by
  have counted : ((markSoleKey fields).filter Field.isPrimaryKey).length =
      (keyPlaces fields).length := by
    rw [← length_keyPlaces, keyPlaces_markSoleKey]
  have marked : field.isInlineKey = true ↔
      field.isPrimaryKey = true ∧ (keyPlaces fields).length = 1 := by
    rw [markSoleKey_eq_map] at member
    obtain ⟨given, among, rfl⟩ := List.mem_map.mp member
    split
    · rename_i alone
      exact iff_of_true rfl alone
    · rename_i several
      exact iff_of_false (by simp [unmarked given among]) several
  rw [marked, ← counted]
  constructor
  · rintro ⟨isKey, alone⟩
    obtain ⟨only, keys⟩ := List.length_eq_one_iff.mp alone
    have listed := List.mem_filter.mpr ⟨member, isKey⟩
    rw [keys, List.mem_singleton] at listed
    rw [keys, listed]
  · intro keys
    have listed : field ∈ (markSoleKey fields).filter Field.isPrimaryKey := by
      rw [keys]
      exact List.mem_singleton_self field
    exact ⟨(List.mem_filter.mp listed).2, congrArg List.length keys⟩

end Schema

/-! ### Places -/

namespace Model.IsFiled

variable {model : Model}

/-- A column is kept at the place where the field stands that is mapped to it. -/
theorem place?_byColumn (filed : model.IsFiled) {column : String} {place : Nat} :
    model.byColumn.place? column = some place ↔
      ∃ field, model.fields[place]? = some field ∧ field.column = column := by
  rw [filed.byColumn, PlaceTable.place?_ofNames_of_nodup filed.columns, Model.columns,
    List.getElem?_map, Option.map_eq_some_iff]

/-- A name is kept at the last place where a field has it. -/
theorem place?_byName (filed : model.IsFiled) {name : String} {place : Nat} :
    model.byName.place? name = some place ↔
      (∃ field, model.fields[place]? = some field ∧ field.name = name) ∧
        ∀ later field, place < later → model.fields[later]? = some field → field.name ≠ name := by
  rw [filed.byName, PlaceTable.place?_ofNames, List.getElem?_map, Option.map_eq_some_iff]
  refine and_congr_right fun _ => ?_
  simp only [List.getElem?_map, Ne, Option.map_eq_some_iff, not_exists, not_and]
  exact ⟨fun apart later field behind => apart later behind field,
    fun apart later behind field => apart later field behind⟩

end Model.IsFiled

/-! ### Models of descriptions -/

namespace Schema

variable {naming : NamingStrategy} {descriptor : RecordDescriptor} {model : Model}

/-- Of the fields of a model the only key is marked, and no other. -/
theorem isInlineKey_of_resolve (resolved : (resolve naming descriptor).2 = .ok model)
    {field : Field} (member : field ∈ model.fields) :
    field.isInlineKey = true ↔ model.primaryKeys = [field] := by
  have accepted : model.IsAccepted := ⟨naming, descriptor, resolved⟩
  obtain ⟨fields, marked, unmarked, -⟩ := fields_of_resolve resolved
  rw [marked] at member
  rw [accepted.isFiled.primaryKeys_eq, marked]
  exact isInlineKey_markSoleKey unmarked member

/-- The model that a description resolves to is well formed in relation to the description. -/
theorem model_wellFormed (resolved : (resolve naming descriptor).2 = .ok model) :
    model.IsWellFormed descriptor := by
  have accepted : model.IsAccepted := ⟨naming, descriptor, resolved⟩
  have filed := accepted.isFiled
  obtain ⟨-, -, valueCount, setting, fields, marked, -, maps⟩ := maps_of_resolve resolved
  have mapsMarked : List.Forall₂ setting.Maps (mappedFrom 0 descriptor.fields) model.fields :=
    marked ▸ maps_markSoleKey maps
  have made := forall₂_isMadeOf mapsMarked
  have positions := map_position_of_maps mapsMarked
  have ordered : (model.fields.map Field.position).Pairwise (· < ·) :=
    positions ▸ places_mappedFrom 0 descriptor.fields
  have bounded : ∀ field ∈ model.fields, field.position < model.valueCount := by
    intro field member
    have listed := List.mem_map_of_mem (f := Field.position) member
    rw [positions] at listed
    obtain ⟨described, among, same⟩ := List.mem_map.mp listed
    have place := List.mem_zipIdx (List.mem_filter.mp among).1
    omega
  refine
    { fields := made
      valueCount := valueCount
      ordered := ordered
      bounded := bounded
      placed := fun values pair member => ?_
      columns := filed.columns
      columnPlaces := fun column place => filed.place?_byColumn
      byColumn := fun column field => filed.fieldByColumn?_eq_some
      resolves := fun field member => accepted.resolve?_column member
      namePlaces := fun name place => filed.place?_byName
      byName := filed.field?_cases
      keyPlaces := ?_
      primaryKeys := ?_
      isInlineKey := fun field member => isInlineKey_of_resolve resolved member }
  · refine getElem?_placeValues_of_mem (pairwise_position_zip ordered values) member ?_
    rw [List.length_replicate]
    exact bounded _ (List.of_mem_zip member).1
  · rw [filed.keyPlaces]
    exact ⟨keyPlaces_pairwise model.fields, fun place => mem_keyPlaces⟩
  · rw [filed.primaryKeys_eq]
    refine List.rel_filter (fun field described each => ?_) made
    show field.isPrimaryKey = true ↔ _
    rw [each.isPrimaryKey]

/-- A description in which each of two fields is mapped to a column that is called like the other,
with a field between them that is left out. -/
def leg : RecordDescriptor where
  name := "Leg"
  table := none
  fields := [⟨"id", .bigInt, false, "primaryKey"⟩, ⟨"from", .text, true, "column:to"⟩,
    ⟨"map", .text, false, "-"⟩, ⟨"to", .text, true, "column:from; not null"⟩]
  hooks := []

/-- The column that is called like another field still leads to its own. -/
theorem model_wellFormed_leg :
    ∃ model, (resolve .snakeCasePlural leg).2 = .ok model ∧ model.IsWellFormed leg ∧
      model.byColumn.place? "to" = some 1 ∧ (model.resolve? "to").map Field.name = some "from" ∧
      model.byName.place? "to" = some 2 ∧
      (model.field? "to").map Field.isNullable = some false := by
  have accepted : ((resolve .snakeCasePlural leg).2.toOption.map fun model =>
      ((model.byColumn.place? "to", (model.resolve? "to").map Field.name),
        (model.byName.place? "to", (model.field? "to").map Field.isNullable))) =
        some ((some 1, some "from"), (some 2, some false)) := by
    decide +kernel
  obtain ⟨model, found, looked⟩ := Option.map_eq_some_iff.mp accepted
  rw [Outcome.toOption_eq_some] at found
  obtain ⟨byColumn, byName⟩ := Prod.mk.inj looked
  obtain ⟨columnPlace, ofColumn⟩ := Prod.mk.inj byColumn
  obtain ⟨namePlace, ofName⟩ := Prod.mk.inj byName
  exact ⟨model, found, model_wellFormed found, columnPlace, ofColumn, namePlace, ofName⟩

end Schema

end RecordMapper
