/-
This file carries filters into SQL in two steps. Against a model a filter becomes a condition: its
column is found, its operands are brought to the column's kind, and an empty list of operands
leaves a constant. A condition is then written as fragments of a statement. All conditions hold
together, so they are joined by AND.
-/

import RecordMapper.Filter.Basic
import RecordMapper.Statement.Basic
import RecordMapper.Value.Conversion

namespace RecordMapper

/-! ### Conditions -/

/-- A condition on a column of a table. -/
inductive Condition
  | compare (comparison : Comparison) (column : String) (value : Value) (kind : Kind)
  | like (column : String) (pattern : Value)
  | among (negated : Bool) (column : String) (values : List Value) (kind : Kind)
  | absent (negated : Bool) (column : String)
  /-- A condition that does not look at the row. -/
  | constant (holds : Bool)
  deriving DecidableEq

/-- An operand in the form that a kind expects. -/
def coerceOperand (kind : Kind) (value : Value) : Except Error Value :=
  (value.coerce kind).mapError .conversion

/-- The condition that a filter puts on a model's table. -/
def Filter.condition (model : Model) (filter : Filter) : Except Error Condition :=
  match model.resolve? filter.key with
  | none => .error (.unknownColumn model.name filter.key)
  | some field =>
    match filter with
    | .compare comparison key value =>
      if value.isNull then .error (.unsupportedFilter (.comparesWithNull key))
      else
        (coerceOperand field.kind value).map fun operand =>
          .compare comparison field.column operand field.kind
    | .like _ pattern => (coerceOperand .text pattern).map fun operand => .like field.column operand
    | .among negated _ [] => .ok (.constant negated)
    | .among negated _ (value :: values) =>
      ((value :: values).mapM (coerceOperand field.kind)).map fun operands =>
        .among negated field.column operands field.kind
    | .absent negated _ => .ok (.absent negated field.column)

/-- The conditions that filters put on a model's table, or the error of the first that cannot. -/
def conditions (model : Model) (filters : List Filter) : Except Error (List Condition) :=
  filters.mapM (Filter.condition model)

/-! ### Writing -/

/-- The symbol of a comparison. -/
def Comparison.symbol : Comparison → String
  | .equal => "="
  | .notEqual => "<>"
  | .greater => ">"
  | .greaterOrEqual => ">="
  | .less => "<"
  | .lessOrEqual => "<="

/-- The fragments of a condition. -/
def Condition.fragments (dialect : Dialect) : Condition → List Fragment
  | .compare comparison column value kind =>
    [.text (dialect.quote column ++ " " ++ comparison.symbol ++ " "), .argument (value, kind)]
  | .like column pattern => [.text (dialect.quote column ++ " LIKE "), .argument (pattern, .text)]
  | .among negated column values kind =>
    .text (dialect.quote column ++ (if negated then " NOT IN (" else " IN (")) ::
      separated ", " (values.map fun value => [.argument (value, kind)]) ++ [.text ")"]
  | .absent negated column =>
    [.text (dialect.quote column ++ if negated then " IS NOT NULL" else " IS NULL")]
  | .constant holds => [.text (if holds then "1=1" else "1=0")]

/-- The fragments of the clause under which all conditions hold; no conditions need no clause. -/
def whereFragments (dialect : Dialect) (conditions : List Condition) : List Fragment :=
  if conditions.isEmpty then []
  else .text " WHERE " :: separated " AND " (conditions.map (Condition.fragments dialect))

end RecordMapper
