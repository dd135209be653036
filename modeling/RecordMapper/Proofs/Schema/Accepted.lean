/-
This file proves what every model has that a record description resolves to. The fields of a
description are added one after the other; one step is taken apart completely, and what a step
preserves holds of all the fields by induction. So the places that are kept of names and columns are
those of the fields, no two fields share a column, and none is marked as the only key before all are
known. A column therefore always names the one field that is mapped to it.
-/

import RecordMapper.Proofs.Outcome
import RecordMapper.Proofs.Schema.Places

namespace RecordMapper

/-- A model that some record description resolves to under some naming strategy. -/
def Model.IsAccepted (model : Model) : Prop :=
  ∃ naming descriptor, (Schema.resolve naming descriptor).2 = .ok model

namespace Schema

/-! ### One field -/

/-- The field that a description, its tag and the numbers of the tag make. -/
def Setting.mapped (setting : Setting) (position : Nat) (field : FieldDescriptor) (tag : FieldTag)
    (size precision scale : Option Nat) : Field :=
  let column := setting.column tag field
  { name := field.name
    kind := field.kind
    column := column
    position := position
    isPrimaryKey := tag.isPrimaryKey
    isAutoIncrement := tag.isAutoIncrement
    isRequired := !isNullable tag field
    isNullable := isNullable tag field
    isUnique := tag.isUnique
    size := size
    precision := precision
    scale := scale
    defaultValue := tag.defaultValue
    sqlType := tag.sqlType
    indexes := setting.plainIndexes tag column
    uniqueIndexes := setting.uniqueIndexes tag column }

/-- A field that can be added has numbers that can be read, a column under which none is found so
far, and indexes that it can join; it then stands at the end and is found there. -/
theorem Setting.addField_eq_ok {setting : Setting} {draft further : Draft} {position : Nat}
    {field : FieldDescriptor} {tag : FieldTag} :
    setting.addField draft position field tag = .ok further ↔
      ∃ size precision scale withPlain,
        tagNumber setting.record field.name "size" tag.size = .ok size ∧
        tagNumber setting.record field.name "precision" tag.precision = .ok precision ∧
        tagNumber setting.record field.name "scale" tag.scale = .ok scale ∧
        draft.fieldByColumn? (setting.column tag field) = none ∧
        joinIndexes setting.record false (setting.column tag field)
          (setting.plainIndexes tag (setting.column tag field)) draft.indexes = .ok withPlain ∧
        joinIndexes setting.record true (setting.column tag field)
          (setting.uniqueIndexes tag (setting.column tag field)) withPlain = .ok further.indexes ∧
        further.fields =
          draft.fields ++ [setting.mapped position field tag size precision scale] ∧
        further.byName = draft.byName.enter field.name draft.fields.length ∧
        further.byColumn =
          draft.byColumn.enter (setting.column tag field) draft.fields.length := by
  unfold addField
  simp only [Outcome.bind_eq_ok]
  cases taken : draft.fieldByColumn? (setting.column tag field) with
  | some earlier =>
    constructor
    · rintro ⟨size, -, precision, -, scale, -, conflict⟩
      cases conflict
    · rintro ⟨size, precision, scale, withPlain, -, -, -, fresh, -⟩
      cases fresh
  | none =>
    constructor
    · rintro ⟨size, readSize, precision, readPrecision, scale, readScale, joined⟩
      obtain ⟨withPlain, joinedPlain, joined⟩ := Outcome.bind_eq_ok.mp joined
      obtain ⟨withUnique, joinedUnique, equal⟩ := Outcome.bind_eq_ok.mp joined
      cases equal
      exact ⟨size, precision, scale, withPlain, readSize, readPrecision, readScale, rfl,
        joinedPlain, joinedUnique, rfl, rfl, rfl⟩
    · rintro ⟨size, precision, scale, withPlain, readSize, readPrecision, readScale, -,
        joinedPlain, joinedUnique, fieldsEqual, namesEqual, columnsEqual⟩
      refine ⟨size, readSize, precision, readPrecision, scale, readScale,
        Outcome.bind_eq_ok.mpr ⟨withPlain, joinedPlain,
          Outcome.bind_eq_ok.mpr ⟨further.indexes, joinedUnique, ?_⟩⟩⟩
      obtain ⟨fields, byName, byColumn, indexes⟩ := further
      simp only at fieldsEqual namesEqual columnsEqual
      subst fieldsEqual namesEqual columnsEqual
      rfl

/-! ### All fields -/

/-- What every field that is added preserves holds once all fields have been added. -/
theorem Setting.addFields_preserves {setting : Setting} (holds : Draft → Prop)
    (step : ∀ {draft further : Draft} {position : Nat} {field : FieldDescriptor} {tag : FieldTag},
      holds draft → setting.addField draft position field tag = .ok further → holds further)
    {draft finished : Draft} {position : Nat} {fields : List FieldDescriptor}
    (begins : holds draft)
    (added : (setting.addFields draft position fields).2 = .ok finished) : holds finished := by
  induction fields generalizing draft position with
  | nil =>
    cases added
    exact begins
  | cons field rest inductionHypothesis =>
    unfold addFields at added
    by_cases ignored : (FieldTag.parse field.tag).isIgnored = true
    · simp only [ignored, if_true] at added
      exact inductionHypothesis begins added
    · simp only [ignored, Bool.false_eq_true, if_false] at added
      cases addedFirst : setting.addField draft position field (FieldTag.parse field.tag) with
      | error error =>
        rw [addedFirst] at added
        cases added
      | ok further =>
        rw [addedFirst] at added
        exact inductionHypothesis (step begins addedFirst) added

/-! ### Places -/

/-- The fields of a draft are filed: the places of its names and of its columns are those of its
fields, no two of which share a column. -/
structure Draft.IsFiled (draft : Draft) : Prop where
  byName : draft.byName = .ofNames (draft.fields.map Field.name)
  byColumn : draft.byColumn = .ofNames (draft.fields.map Field.column)
  columns : (draft.fields.map Field.column).Nodup

theorem Draft.isFiled_empty : Draft.IsFiled {} :=
  ⟨rfl, rfl, List.nodup_nil⟩

/-- No field is found under a column exactly if none has it. -/
theorem Draft.IsFiled.fieldByColumn?_eq_none {draft : Draft} (filed : draft.IsFiled)
    {column : String} :
    draft.fieldByColumn? column = none ↔ ∀ earlier ∈ draft.fields, earlier.column ≠ column := by
  rw [Draft.fieldByColumn?, filed.byColumn]
  exact PlaceTable.bind_eq_none

theorem Setting.addField_isFiled {setting : Setting} {draft further : Draft} {position : Nat}
    {field : FieldDescriptor} {tag : FieldTag} (filed : draft.IsFiled)
    (added : setting.addField draft position field tag = .ok further) : further.IsFiled := by
  obtain ⟨size, precision, scale, _, -, -, -, fresh, -, -, fieldsEqual, namesEqual, columnsEqual⟩ :=
    addField_eq_ok.mp added
  have names : further.fields.map Field.name = draft.fields.map Field.name ++ [field.name] := by
    rw [fieldsEqual, List.map_append]
    rfl
  have columns : further.fields.map Field.column =
      draft.fields.map Field.column ++ [setting.column tag field] := by
    rw [fieldsEqual, List.map_append]
    rfl
  refine ⟨?_, ?_, ?_⟩
  · rw [names, PlaceTable.ofNames_append_singleton, namesEqual, filed.byName, List.length_map]
  · rw [columns, PlaceTable.ofNames_append_singleton, columnsEqual, filed.byColumn,
      List.length_map]
  · rw [columns]
    refine List.nodup_append.mpr ⟨filed.columns, List.nodup_singleton _, ?_⟩
    intro column member other otherMember
    obtain ⟨earlier, earlierMember, rfl⟩ := List.mem_map.mp member
    rw [List.mem_singleton.mp otherMember]
    exact filed.fieldByColumn?_eq_none.mp fresh earlier earlierMember

theorem Setting.addFields_isFiled {setting : Setting} {draft finished : Draft} {position : Nat}
    {fields : List FieldDescriptor} (filed : draft.IsFiled)
    (added : (setting.addFields draft position fields).2 = .ok finished) : finished.IsFiled :=
  addFields_preserves Draft.IsFiled addField_isFiled filed added

/-! ### Keys -/

/-- The only key is not marked before all fields are known. -/
theorem Setting.addField_isInlineKey {setting : Setting} {draft further : Draft} {position : Nat}
    {field : FieldDescriptor} {tag : FieldTag}
    (unmarked : ∀ earlier ∈ draft.fields, earlier.isInlineKey = false)
    (added : setting.addField draft position field tag = .ok further) :
    ∀ each ∈ further.fields, each.isInlineKey = false := by
  obtain ⟨size, precision, scale, _, -, -, -, -, -, -, fieldsEqual, -⟩ := addField_eq_ok.mp added
  rw [fieldsEqual]
  exact List.forall_mem_append.mpr ⟨unmarked, by simp [mapped]⟩

theorem Setting.addFields_isInlineKey {setting : Setting} {draft finished : Draft}
    {position : Nat} {fields : List FieldDescriptor}
    (unmarked : ∀ earlier ∈ draft.fields, earlier.isInlineKey = false)
    (added : (setting.addFields draft position fields).2 = .ok finished) :
    ∀ each ∈ finished.fields, each.isInlineKey = false :=
  addFields_preserves _ addField_isInlineKey unmarked added

/-! ### Finished models -/

/-- A description that resolves has had all its fields added, from an empty draft on, and its model
is what the finished draft amounts to. -/
theorem resolve_eq_ok {naming : NamingStrategy} {descriptor : RecordDescriptor} {model : Model}
    (resolved : (resolve naming descriptor).2 = .ok model) :
    ∃ finished,
      (Setting.addFields ⟨naming, descriptor.name,
        descriptor.table.getD (naming.table descriptor.name)⟩ {} 0 descriptor.fields).2 =
          .ok finished ∧
      model =
        { name := descriptor.name
          table := descriptor.table.getD (naming.table descriptor.name)
          fields := markSoleKey finished.fields
          indexes := finished.indexes
          hooks := descriptor.hooks
          byName := finished.byName
          byColumn := finished.byColumn
          keyPlaces := keyPlaces finished.fields
          valueCount := descriptor.fields.length } := by
  unfold resolve at resolved
  split at resolved
  · cases resolved
  · obtain ⟨finished, added, equal⟩ := Outcome.bind_eq_ok.mp resolved
    unfold Setting.finish at equal
    split at equal
    · cases equal
    · cases equal
      exact ⟨finished, added, rfl⟩

end Schema

namespace Model

variable {model : Model}

/-- What a model remembers of places are the places of its fields, no two of which share a
column. -/
structure IsFiled (model : Model) : Prop where
  byName : model.byName = .ofNames (model.fields.map Field.name)
  byColumn : model.byColumn = .ofNames model.columns
  keyPlaces : model.keyPlaces = Schema.keyPlaces model.fields
  columns : model.columns.Nodup

/-- The places that an accepted model remembers are those of its fields, for marking the only key
moves none. -/
theorem IsAccepted.isFiled (accepted : model.IsAccepted) : model.IsFiled := by
  obtain ⟨naming, descriptor, resolved⟩ := accepted
  obtain ⟨finished, added, rfl⟩ := Schema.resolve_eq_ok resolved
  have filed := Schema.Setting.addFields_isFiled Schema.Draft.isFiled_empty added
  have names := Schema.map_markSoleKey Field.name (fun _ => rfl) finished.fields
  have columns := Schema.map_markSoleKey Field.column (fun _ => rfl) finished.fields
  exact
    { byName := filed.byName.trans (congrArg PlaceTable.ofNames names.symm)
      byColumn := filed.byColumn.trans (congrArg PlaceTable.ofNames columns.symm)
      keyPlaces := (Schema.keyPlaces_markSoleKey finished.fields).symm
      columns := by
        rw [Model.columns, columns]
        exact filed.columns }

/-- The columns of an accepted model are pairwise distinct. -/
theorem IsAccepted.columns_nodup (accepted : model.IsAccepted) : model.columns.Nodup :=
  accepted.isFiled.columns

/-- A column leads to exactly the field that is mapped to it. -/
theorem IsFiled.fieldByColumn?_eq_some (filed : model.IsFiled) {column : String} {field : Field} :
    model.fieldByColumn? column = some field ↔ field ∈ model.fields ∧ field.column = column := by
  rw [fieldByColumn?, filed.byColumn]
  exact PlaceTable.bind_eq_some_of_nodup filed.columns

/-- A name leads to a field of that name, unless there is none. -/
theorem IsFiled.field?_cases (filed : model.IsFiled) (name : String) :
    (∃ field, model.field? name = some field ∧ field ∈ model.fields ∧ field.name = name) ∨
      (model.field? name = none ∧ ∀ field ∈ model.fields, field.name ≠ name) := by
  have looked : model.field? name =
      ((PlaceTable.ofNames (model.fields.map Field.name)).place? name).bind
        (model.fields[·]?) := by
    rw [field?, filed.byName]
  cases found : model.field? name with
  | some field => exact .inl ⟨field, rfl, PlaceTable.follows_of_bind (looked ▸ found)⟩
  | none => exact .inr ⟨rfl, PlaceTable.bind_eq_none.mp (looked ▸ found)⟩

/-- The keys that a model finds at its places are its fields that are keys. -/
theorem IsFiled.primaryKeys_eq (filed : model.IsFiled) :
    model.primaryKeys = model.fields.filter Field.isPrimaryKey := by
  rw [primaryKeys, filed.keyPlaces, Schema.filterMap_keyPlaces]

/-- In an accepted model a column names the field that is mapped to it, whatever other field has
the column as its name. -/
theorem IsAccepted.resolve?_column (accepted : model.IsAccepted) {field : Field}
    (member : field ∈ model.fields) : model.resolve? field.column = some field := by
  rw [resolve?, accepted.isFiled.fieldByColumn?_eq_some.mpr ⟨member, rfl⟩]

end Model

end RecordMapper
