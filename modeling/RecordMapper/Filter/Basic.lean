/-
This file holds filters: conditions on one column each, with their operands. A filter can also be
written as a key and an operand, the key being a column followed by an operator. Operators are
words or symbols; words need a blank before them, symbols may touch the column, and a key without
an operator asks for equality. Of several operators in which a key might end the first one of the
table counts. The operand has to have the shape that the operator takes, a single value or a list.
-/

import RecordMapper.Error

namespace RecordMapper

open RecordMapper.Text

/-! ### Filters -/

/-- A way of comparing a column with a single value. -/
inductive Comparison
  | equal
  | notEqual
  | greater
  | greaterOrEqual
  | less
  | lessOrEqual
  deriving DecidableEq

/-- A condition on one column, named by the column or by its field. -/
inductive Filter
  | compare (comparison : Comparison) (key : String) (value : Value)
  | like (key : String) (pattern : Value)
  /-- The column is among the values, or is not. -/
  | among (negated : Bool) (key : String) (values : List Value)
  /-- The column is absent, or is not. -/
  | absent (negated : Bool) (key : String)
  deriving DecidableEq

/-- What a filter names as its column. -/
def Filter.key : Filter → String
  | .compare _ key _ | .like key _ | .among _ key _ | .absent _ key => key

/-- What a keyed condition compares with: one value or a list. -/
inductive Operand
  | single (value : Value)
  | list (values : List Value)
  deriving DecidableEq

/-! ### Operators -/

/-- What the operator of a key asks for. -/
inductive Operator
  | compare (comparison : Comparison)
  | like
  | among (negated : Bool)
  | absent (negated : Bool)
  deriving DecidableEq

/-- The operators by which a key may end, in the order in which they are tried. -/
def operatorTokens : List (String × Operator) :=
  [("is not null", .absent true), ("is null", .absent false), ("not in", .among true),
    (">=", .compare .greaterOrEqual), ("<=", .compare .lessOrEqual), ("!=", .compare .notEqual),
    ("<>", .compare .notEqual), (">", .compare .greater), ("<", .compare .less),
    ("=", .compare .equal), ("like", .like), ("in", .among false)]

/-- Whether a token is written in symbols, so that it needs no blank before it. -/
def isSymbolic (token : List Char) : Bool :=
  match token with
  | [] => true
  | character :: _ => !character.isAlpha

/-- What stands before a token at the end of a key, if the key ends in it and the token stands
for an operator there. -/
def columnBefore? (key token : List Char) : Option (List Char) :=
  if token.isSuffixOf (asciiLower key) then
    let head := key.take (key.length - token.length)
    if head.getLast? = some ' ' ∨ (isSymbolic token ∧ head ≠ []) then some (trimEnd head)
    else none
  else none

/-- The column and the operator of a key whose blanks are single spaces. -/
def splitNormal (key : List Char) : List (String × Operator) → List Char × Operator
  | [] => (key, .compare .equal)
  | (token, operator) :: rest =>
    match columnBefore? key token.toList with
    | some column => (column, operator)
    | none => splitNormal key rest

/-- The column and the operator of a key. -/
def splitKey (key : String) : String × Operator :=
  let (column, operator) := splitNormal (singleSpaced key.toList) operatorTokens
  (String.ofList column, operator)

/-- The filter that an operator and an operand make on a column, if their shapes agree. -/
def Operator.filter? (operator : Operator) (column : String) (operand : Operand) : Option Filter :=
  match operator, operand with
  | .absent negated, _ => some (.absent negated column)
  | .among negated, .list values => some (.among negated column values)
  | .compare comparison, .single value => some (.compare comparison column value)
  | .like, .single value => some (.like column value)
  | _, _ => none

/-- The filter that a key and an operand stand for. -/
def Filter.ofKey (key : String) (operand : Operand) : Except FilterFault Filter :=
  let (column, operator) := splitKey key
  if column.isEmpty then .error (.noColumn key)
  else
    match operator.filter? column operand with
    | some filter => .ok filter
    | none => .error (.wrongShape key)

end RecordMapper
