/-
This file holds what a record description resolves to: a table with columns, keys and indexes.
Fields that are left out do not occur in a model, so a field remembers at which place of a
record its value stands. A model also remembers at which of its own places the fields of its names,
of its columns and of its keys are. A key of a filter or of a change names a column if there is one
of that name, and a field otherwise; where two fields share a name the later one answers to it.
-/

import RecordMapper.Model.Descriptor

namespace RecordMapper

/-! ### Fields and indexes -/

/-- A mapped field and what is known of its column. -/
structure Field where
  name : String
  kind : Kind
  column : String
  /-- The place of the field's value among the values of a record. -/
  position : Nat
  isPrimaryKey : Bool := false
  isAutoIncrement : Bool := false
  isRequired : Bool := false
  isNullable : Bool := false
  isUnique : Bool := false
  size : Option Nat := none
  precision : Option Nat := none
  scale : Option Nat := none
  defaultValue : Option String := none
  /-- A column type that is used as it stands. -/
  sqlType : Option String := none
  /-- The names of the plain indexes that the field is part of. -/
  indexes : List String := []
  /-- The names of the unique indexes that the field is part of. -/
  uniqueIndexes : List String := []
  /-- Whether the field is the model's only key, which its column then declares itself. -/
  isInlineKey : Bool := false
  deriving DecidableEq

/-- A named index over columns in the order of their fields. -/
structure Index where
  name : String
  isUnique : Bool
  columns : List String
  deriving DecidableEq

/-! ### Tables of places -/

/-- Places under names. -/
structure PlaceTable where
  entries : List (String × Nat) := []
  deriving DecidableEq

namespace PlaceTable

/-- The table with a place under a name, which no longer stands for any place before. -/
def enter (table : PlaceTable) (name : String) (place : Nat) : PlaceTable where
  entries := (name, place) :: table.entries

/-- The place that a name stands for. -/
def place? (table : PlaceTable) (name : String) : Option Nat :=
  table.entries.lookup name

end PlaceTable

/-! ### Models -/

/-- The table that a record type is mapped to. -/
structure Model where
  name : String
  table : String
  /-- The mapped fields in the order of the description. -/
  fields : List Field
  indexes : List Index
  hooks : List Hook
  /-- The places of the fields under their names. -/
  byName : PlaceTable
  /-- The places of the fields under their columns. -/
  byColumn : PlaceTable
  /-- The places of the key fields in the order of the description. -/
  keyPlaces : List Nat
  /-- How many values a record has, those of fields left out included. -/
  valueCount : Nat
  deriving DecidableEq

namespace Model

/-- The field of a name. -/
def field? (model : Model) (name : String) : Option Field :=
  (model.byName.place? name).bind (model.fields[·]?)

/-- The field of a column. -/
def fieldByColumn? (model : Model) (column : String) : Option Field :=
  (model.byColumn.place? column).bind (model.fields[·]?)

/-- The field that a key names, by its column or else by its own name. -/
def resolve? (model : Model) (key : String) : Option Field :=
  match model.fieldByColumn? key with
  | some field => some field
  | none => model.field? key

/-- The key fields in the order of the description. -/
def primaryKeys (model : Model) : List Field :=
  model.keyPlaces.filterMap (model.fields[·]?)

/-- The only key, if there is exactly one. -/
def soleKey? (model : Model) : Option Field :=
  match model.primaryKeys with
  | [only] => some only
  | _ => none

/-- The only key, if there is exactly one and the database generates it. -/
def generatedKey? (model : Model) : Option Field :=
  model.soleKey?.filter Field.isAutoIncrement

/-- The columns in the order of their fields. -/
def columns (model : Model) : List String :=
  model.fields.map Field.column

end Model

end RecordMapper
