/-
This file says when the keys of a record are good enough for what an operation wants of them. A
change needs one that is set, a deletion needs all of them, and so does reading back; where they
do, the filters are those of the record's values at the keys. A generated key is the single key of
its model.
-/

import Mathlib.Tactic.ByContra
import RecordMapper.Query.Modify

namespace RecordMapper

open Query

/-! ### Single keys -/

section

variable {model : Model} {key : Field}

/-- A key is one of the fields, wherever its place leads. -/
theorem Model.mem_of_primaryKeys (isKey : key ∈ model.primaryKeys) : key ∈ model.fields := by
  obtain ⟨place, -, found⟩ := List.mem_filterMap.mp isKey
  exact List.mem_of_getElem? found

theorem Model.soleKey?_eq_some : model.soleKey? = some key ↔ model.primaryKeys = [key] := by
  unfold soleKey?
  cases model.primaryKeys with
  | nil => simp
  | cons first rest => cases rest <;> simp

theorem Model.generatedKey?_eq_some :
    model.generatedKey? = some key ↔ model.primaryKeys = [key] ∧ key.isAutoIncrement = true := by
  rw [generatedKey?, Option.filter_eq_some_iff, soleKey?_eq_some]

theorem Model.mem_of_generatedKey? (generated : model.generatedKey? = some key) :
    key ∈ model.primaryKeys :=
  (generatedKey?_eq_some.mp generated).1 ▸ List.mem_singleton_self key

end

/-! ### Values at keys -/

/-- The value that a record has at a key is unset. -/
def IsUnset (record : Record) (key : Field) : Prop :=
  (valueAt record key.position).isDefault = true

/-- The value that a record has at a key is absent. -/
def IsAbsent (record : Record) (key : Field) : Prop :=
  valueAt record key.position = .null

/-! ### Filters of keys -/

/-- The keys by which a record is read back exist and are all set; their filters are those of the
record's values. -/
theorem keyFilters?_eq_some {model : Model} {record : Record} {filters : List Filter} :
    keyFilters? model record = some filters ↔
      model.primaryKeys ≠ [] ∧ (∀ key ∈ model.primaryKeys, ¬ IsUnset record key) ∧
        filters = model.primaryKeys.map (keyFilter record) := by
  unfold keyFilters?
  by_cases refused : (model.primaryKeys.isEmpty ||
      model.primaryKeys.any fun key => (valueAt record key.position).isDefault) = true
  · simp only [refused, if_true]
    constructor
    · intro equal
      cases equal
    · rintro ⟨keyed, set, -⟩
      rcases Bool.or_eq_true _ _ ▸ refused with keyless | unset
      · exact absurd (List.isEmpty_iff.mp keyless) keyed
      · obtain ⟨key, member, unset⟩ := List.any_eq_true.mp unset
        exact absurd unset (set key member)
  · simp only [refused, Bool.false_eq_true, if_false, Option.some.injEq, eq_comm]
    rw [Bool.not_eq_true, Bool.or_eq_false_iff] at refused
    obtain ⟨keyed, set⟩ := refused
    refine ⟨fun equal => ⟨List.isEmpty_eq_false_iff.mp keyed, fun key member unset => ?_, equal⟩,
      fun all => all.2.2⟩
    exact absurd unset (List.any_eq_false.mp set key member)

/-- The keys by which a change finds its row exist and are not all unset; their filters are those
of the record's values. -/
theorem changeFilters_eq_ok {model : Model} {record : Record} {filters : List Filter} :
    changeFilters model record = .ok filters ↔
      (∃ key ∈ model.primaryKeys, ¬ IsUnset record key) ∧
        filters = model.primaryKeys.map (keyFilter record) := by
  unfold changeFilters
  cases keys : model.primaryKeys with
  | nil => simp
  | cons key rest =>
    by_cases unset : (key :: rest).all fun each => (valueAt record each.position).isDefault
    · simp only [unset, if_true]
      constructor
      · intro equal
        cases equal
      · rintro ⟨⟨each, member, set⟩, -⟩
        exact absurd (List.all_eq_true.mp unset each member) set
    · simp only [unset, Bool.false_eq_true, if_false, Except.ok.injEq, eq_comm]
      refine ⟨fun equal => ⟨?_, equal⟩, And.right⟩
      by_contra unkeyed
      refine unset (List.all_eq_true.mpr fun each member => ?_)
      by_contra set
      exact unkeyed ⟨each, member, set⟩

/-- The keys by which a deletion finds its row exist and are all set; their filters are those of
the record's values. -/
theorem deleteFilters_eq_ok {model : Model} {record : Record} {filters : List Filter} :
    deleteFilters model record = .ok filters ↔
      model.primaryKeys ≠ [] ∧ (∀ key ∈ model.primaryKeys, ¬ IsUnset record key) ∧
        filters = model.primaryKeys.map (keyFilter record) := by
  unfold deleteFilters
  cases keys : model.primaryKeys with
  | nil => simp
  | cons key rest =>
    simp only [List.isEmpty_cons, Bool.false_eq_true, if_false]
    cases found : (key :: rest).find? fun each => (valueAt record each.position).isDefault with
    | some unset =>
      constructor
      · intro equal
        cases equal
      · rintro ⟨-, set, -⟩
        exact absurd (List.find?_some found) (set unset (List.mem_of_find?_eq_some found))
    | none =>
      simp only [Except.ok.injEq, eq_comm]
      refine ⟨fun equal => ⟨List.cons_ne_nil key rest, fun each member => ?_, equal⟩,
        fun all => all.2.2⟩
      exact List.find?_eq_none.mp found each member

end RecordMapper
