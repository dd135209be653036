/-
This file calls the hooks of records. A hook runs only where the model declares it and the record
type answers to it. One that runs before a statement can stop the operation by failing; one that
runs after cannot, and its failure is only reported. Either may change the record.
-/

import RecordMapper.Program.Operation

namespace RecordMapper

namespace Hook

/-- Whether a hook runs on the records of a type. -/
def runsOn (hook : Hook) (model : Model) (type : RecordType) : Bool :=
  model.hooks.contains hook && type.answers.contains hook

/-- Calls a hook before a statement; its failure is the operation's. -/
def before (hook : Hook) (model : Model) (type : RecordType) : Operation Record Unit := do
  if hook.runsOn model type then
    let answer ← Operation.call ⟨hook, type, ← Operation.held, none⟩
    Operation.hold answer.record
    Operation.ofExcept answer.outcome

/-- Calls a hook before an update, which may also edit the changes. -/
def beforeChanges (hook : Hook) (model : Model) (type : RecordType) (changes : Changes) :
    Operation Record Changes := do
  if hook.runsOn model type then
    let answer ← Operation.call ⟨hook, type, ← Operation.held, some changes⟩
    Operation.hold answer.record
    Operation.ofExcept answer.outcome
    return answer.changes.getD changes
  else return changes

/-- Reports the failure of a hook that runs after its statement. -/
def reportFailure {Held : Type} (hook : Hook) (model : Model) :
    Except Error Unit → Operation Held Unit
  | .ok _ => Operation.pure ()
  | .error error =>
    Operation.report .warn (hook.name ++ " hook of " ++ model.name ++ " failed: " ++ error.message)

/-- Calls a hook on a record after a statement and answers the record as the hook leaves it. -/
def afterOn {Held : Type} (hook : Hook) (model : Model) (type : RecordType)
    (changes : Option Changes) (record : Record) : Operation Held Record := do
  if hook.runsOn model type then
    let answer ← Operation.call ⟨hook, type, record, changes⟩
    hook.reportFailure model answer.outcome
    return answer.record
  else return record

/-- Calls a hook after a statement on the record that was saved. -/
def after (hook : Hook) (model : Model) (type : RecordType) (changes : Option Changes) :
    Operation Record Unit := do
  let record ← hook.afterOn model type changes (← Operation.held)
  Operation.hold record

end Hook

end RecordMapper
