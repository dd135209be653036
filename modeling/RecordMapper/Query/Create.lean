/-
This file inserts records. The hook before the insertion sees the record first, and what it leaves
is inserted. A key that the database generates is taken from the row that the insertion returns
where the product has to be asked for it, and from its report otherwise; it is written to the
record only if the record had none. Then the row is read back by its keys, so that the record
shows what the database filled in, and the hook after the insertion is called.
-/

import RecordMapper.Query.Load

namespace RecordMapper.Query

/-- The generated key in the only cell of a returned row. -/
def keyOfRow (key : Field) (row : Row) : Except Error (Option Int64) :=
  match Wire.decode row 0 key.kind with
  | .error fault => .error (.database fault)
  | .ok value => .ok value.asInteger

/-- Sends an insertion and answers its outcome, from a returned row if a key was asked for. -/
def insert (model : Model) (statement : Statement) (asked : Option Field) :
    Operation Record Outcome := do
  match asked with
  | none => (Operation.execute statement).during "create" model.name
  | some key =>
    match ← (Operation.fetchFirst statement).during "create" model.name with
    | none => return ⟨0, none⟩
    | some row => return ⟨1, ← Operation.ofExcept (keyOfRow key row)⟩

/-- Overwrites a field of the record that the operation works on. -/
def overwrite (type : RecordType) (field : Field) (value : Value) : Operation Record Unit := do
  Operation.hold (← Operation.ofExcept (type.setValue (← Operation.held) field.name value))

/-- Writes a generated key to the record, unless its values had one when they were inserted. -/
def writeKey (query : Query) (model : Model) (inserted : Record) (outcome : Outcome) :
    Operation Record Unit := do
  match model.generatedKey?, outcome.lastInsertId with
  | some key, some identifier =>
    if (valueAt inserted key.position).isDefault then
      let value ← Operation.ofExcept (coerceOperand key.kind (.bigInt identifier))
      overwrite query.type key value
  | _, _ => return ()

/-- Overwrites fields by the cells of a row, from a column on. -/
def copyCells (type : RecordType) (row : Row) (column : Nat) : List Field → Operation Record Unit
  | [] => Operation.pure ()
  | field :: fields => do
    let value ← Operation.ofExcept ((Wire.decode row column field.kind).mapError .database)
    overwrite type field value
    copyCells type row (column + 1) fields

/-- Reads the record back by its keys, if all of them are known. -/
def refresh (query : Query) (model : Model) : Operation Record Unit := do
  match keyFilters? model (← Operation.held) with
  | none =>
    Operation.report .debug (model.name ++ ": key not known after insert, skipping re-select")
  | some filters =>
    let statement ← Operation.ofExcept
      (selectStatement model query.dialect filters [] (some 1) none)
    match ← (Operation.fetchFirst statement).during "create" model.name with
    | none => return ()
    | some row => copyCells query.type row 0 model.fields

/-- Inserts the record. -/
def create (query : Query) : Operation Record Outcome := do
  let model ← Operation.ofExcept query.prepare
  Hook.beforeCreate.before model query.type
  let inserted ← Operation.held
  let asked := model.generatedKey?.filter fun _ => query.dialect.asksForKey
  let returning := asked.bind fun key => query.dialect.returning key.column
  let statement ← Operation.ofExcept (insertStatement model query.dialect inserted returning)
  let outcome ← insert model statement asked
  query.writeKey model inserted outcome
  query.refresh model
  Hook.afterCreate.after model query.type none
  return outcome

end RecordMapper.Query
