/-
This file makes records out of rows. The cells of a row stand in the order of the model's fields,
each is read as its field's kind, and the value goes to the field's place in the record; places of
fields that the model leaves out stay absent.
-/

import RecordMapper.Model.Basic
import RecordMapper.Record.Basic
import RecordMapper.Wire.Decoding

namespace RecordMapper

/-- The values of a row's cells, from a column on, for the fields that they belong to. -/
def decodeCells (row : Row) (column : Nat) : List Field → Except Error (List (Field × Value))
  | [] => .ok []
  | field :: fields =>
    match Wire.decode row column field.kind with
    | .error fault => .error (.database fault)
    | .ok value => (decodeCells row (column + 1) fields).map ((field, value) :: ·)

/-- Values at the places of their fields, on top of others. -/
def placeValues (values : List Value) (found : List (Field × Value)) : List Value :=
  found.foldl (fun placed (field, value) => placed.set field.position value) values

/-- The record that a row holds. -/
def RecordType.ofRow (type : RecordType) (model : Model) (row : Row) : Except Error Record :=
  match decodeCells row 0 model.fields with
  | .error error => .error error
  | .ok found => type.ofValues (placeValues (List.replicate model.valueCount .null) found)

end RecordMapper
