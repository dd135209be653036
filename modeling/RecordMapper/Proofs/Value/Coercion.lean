/-
This file says what comes out of a conversion: a value of the variant that the target stores. A
value brought to a kind is therefore absent if and only if it was absent before, and otherwise it is
of the variant that the kind names.
-/

import RecordMapper.Proofs.Outcome
import RecordMapper.Value.Conversion

namespace RecordMapper

/-! ### Variants -/

theorem Value.isNull_iff {value : Value} : value.isNull = true ↔ value = .null := by
  cases value <;> simp [Value.isNull]

/-- Whether a value is of the variant that a kind names. A kind that the library does not map names
no variant, so that it takes every value. -/
def Kind.names : Kind → Value → Bool
  | .bool, .bool _ => true
  | .smallInt, .smallInt _ => true
  | .int, .int _ => true
  | .bigInt, .bigInt _ => true
  | .real, .real _ => true
  | .double, .double _ => true
  | .text, .text _ => true
  | .blob, .blob _ => true
  | .uuid, .uuid _ => true
  | .date, .date _ => true
  | .time, .time _ => true
  | .dateTime, .dateTime _ => true
  | .timestamp, .timestamp _ => true
  | .other _, _ => true
  | _, _ => false

/-! ### Conversions -/

namespace Conversion

variable {value stored : Value}

theorem names_of_toBool (converted : toBool value = .ok stored) :
    Kind.names .bool stored = true := by
  unfold toBool at converted
  dsimp only at converted
  split at converted
  · cases converted
    rfl
  · cases converted

theorem names_of_storeInteger (type : IntegerType) (number : Int) :
    type.kind.names (storeInteger type number) = true := by
  cases type <;> rfl

theorem names_of_toInteger {type : IntegerType} (converted : toInteger type value = .ok stored) :
    type.kind.names stored = true := by
  unfold toInteger at converted
  split at converted
  · cases converted
  · split at converted
    · cases converted
      exact names_of_storeInteger type _
    · cases converted

theorem names_of_toFloat32 (converted : toFloat32 value = .ok stored) :
    Kind.names .real stored = true := by
  unfold toFloat32 at converted
  split at converted
  · cases converted
    rfl
  · split at converted
    · cases converted
      rfl
    · cases converted

theorem names_of_toFloat64 (converted : toFloat64 value = .ok stored) :
    Kind.names .double stored = true := by
  unfold toFloat64 at converted
  split at converted
  · cases converted
    rfl
  · cases converted

theorem names_of_toText (converted : toText value = .ok stored) :
    Kind.names .text stored = true := by
  obtain ⟨text, -, rfl⟩ := Outcome.map_eq_ok.mp converted
  rfl

theorem names_of_toBytes (converted : toBytes value = .ok stored) :
    Kind.names .blob stored = true := by
  unfold toBytes at converted
  split at converted
  · cases converted
    rfl
  · cases converted
    rfl
  · cases converted

theorem names_of_toUuid (converted : toUuid value = .ok stored) :
    Kind.names .uuid stored = true := by
  unfold toUuid at converted
  split at converted
  · cases converted
    rfl
  · split at converted
    · cases converted
      rfl
    · cases converted
  · split at converted
    · cases converted
      rfl
    · cases converted
  · cases converted

theorem names_of_toDate (converted : toDate value = .ok stored) :
    Kind.names .date stored = true := by
  unfold toDate at converted
  split at converted
  · cases converted
    rfl
  · cases converted
    rfl
  · cases converted
    rfl
  · obtain ⟨date, -, rfl⟩ := Outcome.map_eq_ok.mp converted
    rfl
  · cases converted

theorem names_of_toTime (converted : toTime value = .ok stored) :
    Kind.names .time stored = true := by
  unfold toTime at converted
  split at converted
  · cases converted
    rfl
  · obtain ⟨time, -, rfl⟩ := Outcome.map_eq_ok.mp converted
    rfl
  · cases converted

theorem names_of_toDateTime (converted : toDateTime value = .ok stored) :
    Kind.names .dateTime stored = true := by
  unfold toDateTime at converted
  split at converted
  · cases converted
    rfl
  · cases converted
    rfl
  · obtain ⟨moment, -, rfl⟩ := Outcome.map_eq_ok.mp converted
    rfl
  · cases converted

theorem names_of_toInstant (converted : toInstant value = .ok stored) :
    Kind.names .timestamp stored = true := by
  unfold toInstant at converted
  split at converted
  · cases converted
    rfl
  · cases converted
    rfl
  · obtain ⟨instant, -, rfl⟩ := Outcome.map_eq_ok.mp converted
    rfl
  · cases converted

end Conversion

/-- A converted value is of the variant under which the type stores its values. -/
theorem ScalarType.names_of_convert {type : ScalarType} {value stored : Value}
    (converted : type.convert value = .ok stored) : type.kind.names stored = true := by
  cases type with
  | bool => exact Conversion.names_of_toBool converted
  | integer type => exact Conversion.names_of_toInteger converted
  | float32 => exact Conversion.names_of_toFloat32 converted
  | float64 => exact Conversion.names_of_toFloat64 converted
  | string => exact Conversion.names_of_toText converted
  | bytes => exact Conversion.names_of_toBytes converted
  | uuid => exact Conversion.names_of_toUuid converted
  | date => exact Conversion.names_of_toDate converted
  | time => exact Conversion.names_of_toTime converted
  | dateTime => exact Conversion.names_of_toDateTime converted
  | instant => exact Conversion.names_of_toInstant converted

/-! ### Kinds -/

/-- The type that carries a kind stores its values under that kind. -/
theorem Kind.kind_of_carrier? {kind : Kind} {type : ScalarType}
    (carried : kind.carrier? = some type) : type.kind = kind := by
  cases kind <;> cases carried <;> rfl

/-- No kind that the library maps names the absent value. -/
theorem Kind.names_null_of_carrier? {kind : Kind} {type : ScalarType}
    (carried : kind.carrier? = some type) : kind.names .null = false := by
  cases kind <;> cases carried <;> rfl

/-- To bring a value that is present to a kind is to convert it to the type that carries the
kind. -/
theorem Value.coerce_of_carrier? {value : Value} {kind : Kind} {type : ScalarType}
    (carried : kind.carrier? = some type) (present : value ≠ .null) :
    value.coerce kind = type.convert value := by
  unfold Value.coerce
  split
  · exact absurd rfl present
  · rename_i uncarried
    cases carried.symm.trans uncarried
  · rename_i other carriedToo
    cases carried.symm.trans carriedToo
    rfl

/-- Bringing a value to a kind keeps absence, and makes of any other value one that is not absent
and of the variant that the kind names. -/
theorem Value.coerce_eq_ok {value operand : Value} {kind : Kind}
    (coerced : value.coerce kind = .ok operand) :
    (value = .null ∧ operand = .null) ∨
      (value ≠ .null ∧ operand ≠ .null ∧ kind.names operand = true) := by
  by_cases absent : value = .null
  · subst absent
    cases coerced
    exact .inl ⟨rfl, rfl⟩
  · refine .inr ⟨absent, ?_⟩
    unfold Value.coerce at coerced
    split at coerced
    · exact absurd rfl absent
    · rename_i uncarried
      cases coerced
      refine ⟨absent, ?_⟩
      cases kind <;> first | rfl | cases uncarried
    · rename_i type carried
      have named := ScalarType.names_of_convert coerced
      rw [Kind.kind_of_carrier? carried] at named
      refine ⟨?_, named⟩
      rintro rfl
      rw [Kind.names_null_of_carrier? carried] at named
      cases named

/-- A value that is present stays present. -/
theorem Value.coerce_ne_null {value operand : Value} {kind : Kind}
    (coerced : value.coerce kind = .ok operand) (present : value ≠ .null) : operand ≠ .null := by
  rcases Value.coerce_eq_ok coerced with ⟨absent, -⟩ | ⟨-, kept, -⟩
  · exact absurd absent present
  · exact kept

end RecordMapper
