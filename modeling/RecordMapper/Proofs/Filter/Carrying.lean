/-
This file says what becomes of a filter when it is carried over to a table. The key of the filter
only serves to find a field; of that field the condition takes the column and the kind, and the
operands are brought to the kind. A list without operands leaves nothing to look at in the row.
-/

import RecordMapper.Filter.Condition
import RecordMapper.Proofs.Outcome

namespace RecordMapper

/-- An operand is what a value comes to under a kind. -/
def ComesTo (kind : Kind) (value operand : Value) : Prop :=
  value.coerce kind = .ok operand

theorem coerceOperand_eq_ok {kind : Kind} {value operand : Value} :
    coerceOperand kind value = .ok operand ↔ ComesTo kind value operand :=
  Outcome.mapError_eq_ok

/-- A filter whose key names a field is carried over to a condition. -/
inductive Carries (field : Field) : Filter → Condition → Prop
  | compare {comparison key value operand} (present : value ≠ .null)
      (comes : ComesTo field.kind value operand) :
      Carries field (.compare comparison key value)
        (.compare comparison field.column operand field.kind)
  | like {key pattern operand} (comes : ComesTo .text pattern operand) :
      Carries field (.like key pattern) (.like field.column operand)
  | constant {negated key} : Carries field (.among negated key []) (.constant negated)
  | among {negated key values operands} (nonempty : values ≠ [])
      (come : List.Forall₂ (ComesTo field.kind) values operands) :
      Carries field (.among negated key values) (.among negated field.column operands field.kind)
  | absent {negated key} : Carries field (.absent negated key) (.absent negated field.column)

/-- The condition of a filter is what the filter is carried over to by the field of its key. -/
theorem Filter.condition_eq_ok {model : Model} {filter : Filter} {condition : Condition} :
    filter.condition model = .ok condition ↔
      ∃ field, model.resolve? filter.key = some field ∧ Carries field filter condition := by
  unfold Filter.condition
  cases resolved : model.resolve? filter.key with
  | none =>
    constructor
    · intro equal
      cases equal
    · rintro ⟨field, found, -⟩
      cases found
  | some field =>
    simp only [Option.some.injEq, exists_eq_left']
    cases filter with
    | compare comparison key value =>
      cases value with
      | null =>
        constructor
        · intro equal
          cases equal
        · rintro ⟨present, -⟩
          exact absurd rfl present
      | _ =>
        simp only [Value.isNull, Bool.false_eq_true, if_false, Outcome.map_eq_ok,
          coerceOperand_eq_ok]
        constructor
        · rintro ⟨operand, comes, rfl⟩
          exact .compare nofun comes
        · intro carries
          cases carries with
          | compare _ comes => exact ⟨_, comes, rfl⟩
    | like key pattern =>
      simp only [Outcome.map_eq_ok, coerceOperand_eq_ok]
      constructor
      · rintro ⟨operand, comes, rfl⟩
        exact .like comes
      · intro carries
        cases carries with
        | like comes => exact ⟨_, comes, rfl⟩
    | among negated key values =>
      cases values with
      | nil =>
        constructor
        · intro equal
          cases equal
          exact .constant
        · intro carries
          cases carries with
          | constant => rfl
          | among nonempty => exact absurd rfl nonempty
      | cons value rest =>
        simp only [Outcome.map_eq_ok, Outcome.mapM_eq_ok, coerceOperand_eq_ok]
        constructor
        · rintro ⟨operands, come, rfl⟩
          exact .among nofun come
        · intro carries
          cases carries with
          | among _ come => exact ⟨_, come, rfl⟩
    | absent negated key =>
      constructor
      · intro equal
        cases equal
        exact .absent
      · intro carries
        cases carries with
        | absent => rfl

/-- What a key names is a field of the model. -/
theorem Model.mem_of_resolve? {model : Model} {key : String} {field : Field}
    (resolved : model.resolve? key = some field) : field ∈ model.fields := by
  unfold Model.resolve? at resolved
  split at resolved
  · rename_i found
    cases resolved
    obtain ⟨place, -, leads⟩ := Option.bind_eq_some_iff.mp found
    exact List.mem_of_getElem? leads
  · obtain ⟨place, -, leads⟩ := Option.bind_eq_some_iff.mp resolved
    exact List.mem_of_getElem? leads

/-- A condition is what some filter on a field of the model is carried over to. -/
def IsCarried (model : Model) (condition : Condition) : Prop :=
  ∃ field ∈ model.fields, ∃ filter, Carries field filter condition

/-- Whatever keys filters have, their conditions are on fields of the model. -/
theorem isCarried_of_conditions {model : Model} {filters : List Filter} {found : List Condition}
    (carried : conditions model filters = .ok found) :
    ∀ condition ∈ found, IsCarried model condition := by
  refine Outcome.forall_of_mapM (fun filter condition carries => ?_) carried
  obtain ⟨field, resolved, carries⟩ := Filter.condition_eq_ok.mp carries
  exact ⟨field, Model.mem_of_resolve? resolved, filter, carries⟩

end RecordMapper
