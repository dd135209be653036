/-
This file holds record types and what can be done with the values of a record without a database.
A field of a record type is kept out of the database, or typed, or of a kind only. Values given to
a typed field are converted to its type; a field of a kind takes them as they are; one kept out
holds nothing and cannot be set. A record is the list of its values in the order of the fields.
-/

import RecordMapper.FieldTag
import RecordMapper.Model.Descriptor
import RecordMapper.Value.Conversion

namespace RecordMapper

/-! ### Record types -/

/-- How a field of a record takes values. -/
inductive FieldStorage
  /-- The field is not for the database; what it holds goes by the name of its type only. -/
  | keptOut (typeName : String)
  | typed (type : ColumnType)
  | untyped (kind : Kind) (isOptional : Bool)
  deriving DecidableEq

/-- A field of a record type. -/
structure RecordField where
  name : String
  storage : FieldStorage
  tag : String
  deriving DecidableEq

/-- A record type. -/
structure RecordType where
  /-- What tells record types apart; names may coincide. -/
  identity : Nat
  name : String
  table : Option String
  fields : List RecordField
  /-- The hooks that the type declares. -/
  hooks : List Hook
  /-- The hooks that the type answers to when called. -/
  answers : List Hook
  deriving DecidableEq

/-- How a field of a record type describes itself. -/
def RecordField.descriptor (field : RecordField) : FieldDescriptor :=
  match field.storage with
  | .keptOut typeName => ⟨field.name, .other typeName, false, field.tag⟩
  | .typed type => ⟨field.name, type.kind, type.isOptional, field.tag⟩
  | .untyped kind isOptional => ⟨field.name, kind, isOptional, field.tag⟩

/-- How a record type describes itself. -/
def RecordType.descriptor (type : RecordType) : RecordDescriptor :=
  ⟨type.name, type.table, type.fields.map RecordField.descriptor, type.hooks⟩

/-! ### Records -/

/-- The values of a record in the order of its type's fields. -/
abbrev Record := List Value

/-- What a field keeps of a value that it is given. -/
def RecordField.store (field : RecordField) (record : String) (value : Option Value) :
    Except ConversionFault Value :=
  match field.storage with
  | .keptOut _ => .ok .null
  | .typed type => type.decodeField record field.name value
  | .untyped _ _ => .ok (value.getD .null)

/-- The values that fields keep of the values given to them, missing ones counting as absent. -/
def storeAll (record : String) : List RecordField → List Value → Except ConversionFault Record
  | [], _ => .ok []
  | field :: fields, values =>
    match field.store record values.head? with
    | .error fault => .error fault
    | .ok kept => (storeAll record fields values.tail).map (kept :: ·)

/-- The record made of the given values. -/
def RecordType.ofValues (type : RecordType) (values : List Value) : Except Error Record :=
  (storeAll type.name type.fields values).mapError .conversion

/-- Whether a field answers to a name. -/
def RecordField.answersTo (field : RecordField) (name : String) : Bool :=
  field.name == name &&
    match field.storage with
    | .keptOut _ => false
    | _ => true

/-- The record with the field of a name overwritten, the first that answers to it. -/
def RecordType.setValue (type : RecordType) (record : Record) (name : String) (value : Value) :
    Except Error Record :=
  match type.fields.findIdx? fun field => field.answersTo name with
  | none => .error (.unknownColumn type.name name)
  | some position =>
    match type.fields[position]? with
    | none => .error (.unknownColumn type.name name)
    | some field =>
      match field.store type.name (some value) with
      | .error fault => .error (.conversion fault)
      | .ok kept => .ok (record.set position kept)

/-- The value at a position of a record. -/
def valueAt (record : Record) (position : Nat) : Value :=
  record[position]?.getD .null

end RecordMapper
