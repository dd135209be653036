/-
This file resolves record descriptions into models. The fields are taken in order. One whose tag
leaves it out is skipped; any other has its numbers read, its column named and its indexes
joined, and the first defect met ends the work: a text that is no number, a column that an
earlier field has, an index that is wanted both plain and unique. Keys of a tag that mean nothing
are reported as the field is reached, before its defects. A record needs a name and at least one
mapped field.
-/

import RecordMapper.FieldTag
import RecordMapper.Log
import RecordMapper.Model.Basic
import RecordMapper.Naming.Strategy

namespace RecordMapper.Schema

open RecordMapper.Text

/-! ### Joining indexes -/

/-- The indexes once a column has joined the one of a name. An index keeps its first position,
and a column stands in it once. -/
def joinIndex (record name : String) (isUnique : Bool) (column : String) :
    List Index → Except Error (List Index)
  | [] => .ok [⟨name, isUnique, [column]⟩]
  | index :: rest =>
    if index.name = name then
      if index.isUnique = isUnique then
        .ok ((if index.columns.contains column then index
          else { index with columns := index.columns ++ [column] }) :: rest)
      else .error (.indexConflict record name)
    else (joinIndex record name isUnique column rest).map (index :: ·)

/-- The indexes once a column has joined those of several names, in order. -/
def joinIndexes (record : String) (isUnique : Bool) (column : String) :
    List String → List Index → Except Error (List Index)
  | [], indexes => .ok indexes
  | name :: names, indexes =>
    match joinIndex record name isUnique column indexes with
    | .error error => .error error
    | .ok joined => joinIndexes record isUnique column names joined

/-! ### One field -/

/-- What the fields so far have come to, and where they are found. -/
structure Draft where
  fields : List Field := []
  byName : PlaceTable := {}
  byColumn : PlaceTable := {}
  indexes : List Index := []

/-- The field so far that has a column. -/
def Draft.fieldByColumn? (draft : Draft) (column : String) : Option Field :=
  (draft.byColumn.place? column).bind (draft.fields[·]?)

/-- What is settled before the first field is reached. -/
structure Setting where
  naming : NamingStrategy
  record : String
  table : String

/-- The column that a field is mapped to. -/
def Setting.column (setting : Setting) (tag : FieldTag) (field : FieldDescriptor) : String :=
  tag.column.getD (setting.naming.column field.name)

/-- The names of the plain indexes that a tag asks for. -/
def Setting.plainIndexes (setting : Setting) (tag : FieldTag) (column : String) : List String :=
  tag.indexes.map fun name => name.getD (setting.naming.index "idx" setting.table column)

/-- The names of the unique indexes that a tag asks for, the one of a unique column first. -/
def Setting.uniqueIndexes (setting : Setting) (tag : FieldTag) (column : String) : List String :=
  let generated := setting.naming.index "uix" setting.table column
  (if tag.isUnique then [generated] else []) ++
    tag.uniqueIndexes.map fun name => name.getD generated

/-- Whether a column may hold absence. A key never does, and a stated wish goes before the type. -/
def isNullable (tag : FieldTag) (field : FieldDescriptor) : Bool :=
  if tag.isPrimaryKey || tag.isNotNull then false
  else if tag.isNull then true
  else field.isOptional

/-- A number of a tag, its fault being put down to the field. -/
def tagNumber (record field key : String) (value : Option String) : Except Error (Option Nat) :=
  (FieldTag.number key value).mapError fun fault => .badTag record field fault

/-- The draft with one more field that is mapped. -/
def Setting.addField (setting : Setting) (draft : Draft) (position : Nat) (field : FieldDescriptor)
    (tag : FieldTag) : Except Error Draft := do
  let size ← tagNumber setting.record field.name "size" tag.size
  let precision ← tagNumber setting.record field.name "precision" tag.precision
  let scale ← tagNumber setting.record field.name "scale" tag.scale
  let column := setting.column tag field
  if let some first := draft.fieldByColumn? column then
    throw (.duplicateColumn setting.record column first.name field.name)
  let plain := setting.plainIndexes tag column
  let unique := setting.uniqueIndexes tag column
  let withPlain ← joinIndexes setting.record false column plain draft.indexes
  let withUnique ← joinIndexes setting.record true column unique withPlain
  let mapped : Field :=
    { name := field.name
      kind := field.kind
      column := column
      position := position
      isPrimaryKey := tag.isPrimaryKey
      isAutoIncrement := tag.isAutoIncrement
      isRequired := !isNullable tag field
      isNullable := isNullable tag field
      isUnique := tag.isUnique
      size := size
      precision := precision
      scale := scale
      defaultValue := tag.defaultValue
      sqlType := tag.sqlType
      indexes := plain
      uniqueIndexes := unique }
  let place := draft.fields.length
  return {
    fields := draft.fields ++ [mapped]
    byName := draft.byName.enter field.name place
    byColumn := draft.byColumn.enter column place
    indexes := withUnique }

/-- The reports of the keys of a tag that mean nothing. -/
def unknownKeyReports (record field : String) (tag : FieldTag) : List LogEntry :=
  tag.unknown.map fun key =>
    ⟨.warn, record ++ "." ++ field ++ ": ignoring unknown annotation key `" ++ key ++ "`"⟩

/-! ### All fields -/

/-- The draft with the fields from a position on, and the reports made on the way. -/
def Setting.addFields (setting : Setting) (draft : Draft) (position : Nat) :
    List FieldDescriptor → List LogEntry × Except Error Draft
  | [] => ([], .ok draft)
  | field :: rest =>
    let tag := FieldTag.parse field.tag
    if tag.isIgnored then setting.addFields draft (position + 1) rest
    else
      let reports := unknownKeyReports setting.record field.name tag
      match setting.addField draft position field tag with
      | .error error => (reports, .error error)
      | .ok further =>
        let (later, outcome) := setting.addFields further (position + 1) rest
        (reports ++ later, outcome)

/-- The places of the keys among fields. -/
def keyPlaces (fields : List Field) : List Nat :=
  (fields.zipIdx.filter fun placed => placed.1.isPrimaryKey).map Prod.snd

/-- The fields with the only key marked as such, if there is only one. -/
def markSoleKey (fields : List Field) : List Field :=
  match keyPlaces fields with
  | [only] => fields.modify only fun field => { field with isInlineKey := true }
  | _ => fields

/-- The model that a finished draft amounts to. -/
def Setting.finish (setting : Setting) (descriptor : RecordDescriptor) (draft : Draft) :
    Except Error Model :=
  if draft.fields.isEmpty then .error (.invalidRecord (.unmapped setting.record))
  else
    .ok
      { name := setting.record
        table := setting.table
        fields := markSoleKey draft.fields
        indexes := draft.indexes
        hooks := descriptor.hooks
        byName := draft.byName
        byColumn := draft.byColumn
        keyPlaces := keyPlaces draft.fields
        valueCount := descriptor.fields.length }

/-- The model of a record description, and the reports made on the way to it. -/
def resolve (naming : NamingStrategy) (descriptor : RecordDescriptor) :
    List LogEntry × Except Error Model :=
  if isAllBlank descriptor.name then ([], .error (.invalidRecord .unnamed))
  else
    let setting : Setting :=
      { naming := naming
        record := descriptor.name
        table := descriptor.table.getD (naming.table descriptor.name) }
    let (reports, outcome) := setting.addFields {} 0 descriptor.fields
    (reports, outcome.bind (setting.finish descriptor))

end RecordMapper.Schema
