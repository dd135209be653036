/-
This file changes and deletes the row of a record. The row is known by all keys of the record as
they were when the operation was called, so that no hook can lead it to another row, and every
filter of the query narrows it further. A change needs one key that is set, a deletion needs all of
them; without, the operation refuses to send anything. Keys themselves are never changed.
-/

import RecordMapper.Query.Create

namespace RecordMapper.Query

/-! ### Changing -/

/-- The assignments that changes amount to, in order. Keys are left out, with a report. -/
def assignments (model : Model) : List (String × Value) → Operation Record (List Assignment)
  | [] => Operation.pure []
  | (name, value) :: rest => do
    match model.resolve? name with
    | none => Operation.fail (.unknownColumn model.name name)
    | some field =>
      if field.isPrimaryKey then
        Operation.report .debug
          (model.name ++ ": skipping primary key `" ++ field.column ++ "` in updates")
        assignments model rest
      else
        let operand ← Operation.ofExcept (coerceOperand field.kind value)
        return (field, operand) :: (← assignments model rest)

/-- Writes assigned values to the record, in order. -/
def writeAssignments (type : RecordType) : List Assignment → Operation Record Unit
  | [] => Operation.pure ()
  | (field, value) :: rest => do
    overwrite type field value
    writeAssignments type rest

/-- The filters for the row of a record that is to be changed, if one of its keys is set. -/
def changeFilters (model : Model) (record : Record) : Except Error (List Filter) :=
  match model.primaryKeys with
  | [] => .error (.missingPrimaryKey model.name "updates")
  | key :: keys =>
    if (key :: keys).all fun each => (valueAt record each.position).isDefault then
      .error (.zeroPrimaryKey model.name key.name "updates")
    else .ok ((key :: keys).map (keyFilter record))

/-- Changes the row of the record, and then the record itself if there was such a row. -/
def updates (query : Query) (changes : Changes) : Operation Record Outcome := do
  let model ← Operation.ofExcept query.prepare
  let keys ← Operation.ofExcept (changeFilters model (← Operation.held))
  let changes ← Hook.beforeUpdate.beforeChanges model query.type changes
  let assigned ← assignments model changes.entries
  if assigned.isEmpty then
    Operation.fail (.invalidArgument (.nothingToUpdate model.name))
  let statement ← Operation.ofExcept
    (updateStatement model query.dialect assigned (keys ++ query.filters))
  let outcome ← (Operation.execute statement).during "updates" model.name
  if 0 < outcome.rowsAffected then
    writeAssignments query.type assigned
  Hook.afterUpdate.after model query.type (some changes)
  return outcome

/-! ### Deleting -/

/-- The filters for the row of a record that is to be deleted, if all of its keys are set. -/
def deleteFilters (model : Model) (record : Record) : Except Error (List Filter) :=
  let keys := model.primaryKeys
  if keys.isEmpty then .error (.missingPrimaryKey model.name "delete")
  else
    match keys.find? fun key => (valueAt record key.position).isDefault with
    | some key => .error (.zeroPrimaryKey model.name key.name "delete")
    | none => .ok (keys.map (keyFilter record))

/-- Deletes the row of the record. -/
def delete (query : Query) : Operation Record Outcome := do
  let model ← Operation.ofExcept query.prepare
  let keys ← Operation.ofExcept (deleteFilters model (← Operation.held))
  Hook.beforeDelete.before model query.type
  let statement ← Operation.ofExcept (deleteStatement model query.dialect (keys ++ query.filters))
  let outcome ← (Operation.execute statement).during "delete" model.name
  Hook.afterDelete.after model query.type none
  return outcome

end RecordMapper.Query
