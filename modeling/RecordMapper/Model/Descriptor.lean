/-
This file holds how a record type describes itself: its name, a table name if it insists on one,
its fields in order, each with a kind and a tag, and the moments in a record's life at which it
wants to be called. The values of a record are always listed in the order of these fields.
-/

import RecordMapper.Value.Kind

namespace RecordMapper

/-! ### Hooks -/

/-- A moment at which a record may be called: before or after it is written, or once loaded. -/
inductive Hook
  | beforeCreate
  | afterCreate
  | beforeUpdate
  | afterUpdate
  | beforeDelete
  | afterDelete
  | afterFind
  deriving DecidableEq

namespace Hook

/-- All hooks, in their usual order. -/
def all : List Hook :=
  [.beforeCreate, .afterCreate, .beforeUpdate, .afterUpdate, .beforeDelete, .afterDelete,
    .afterFind]

/-- The name of a hook. -/
def name : Hook → String
  | .beforeCreate => "before_create"
  | .afterCreate => "after_create"
  | .beforeUpdate => "before_update"
  | .afterUpdate => "after_update"
  | .beforeDelete => "before_delete"
  | .afterDelete => "after_delete"
  | .afterFind => "after_find"

end Hook

/-! ### Descriptions -/

/-- How a record type describes one of its fields. -/
structure FieldDescriptor where
  name : String
  kind : Kind
  isOptional : Bool
  tag : String
  deriving DecidableEq

/-- How a record type describes itself. -/
structure RecordDescriptor where
  name : String
  /-- The table the record insists on; without one the naming strategy decides. -/
  table : Option String
  fields : List FieldDescriptor
  hooks : List Hook
  deriving DecidableEq

end RecordMapper
