/-
This file proves that whole numbers are never changed by the width in which they travel. A number
that a cell holds, in whatever width, is read into a field of an integer type as that very number if
the type has it, and refused by name if it does not; nothing wraps, and nothing is cut off. So it is
with the numbers that filters compare with and changes assign, on their way to the kind of a column.
-/

import RecordMapper.Proofs.Filter.Meaning
import RecordMapper.Proofs.Value.Holding
import RecordMapper.Wire.Decoding

namespace RecordMapper

open Conversion

/-! ### Numbers of three widths -/

/-- The number in a value of one of the three widths of integers. -/
def Value.wholeNumber? : Value → Option Int
  | .smallInt value => some value.toInt
  | .int value => some value.toInt
  | .bigInt value => some value.toInt
  | _ => none

variable {value : Value} {number : Int}

/-- Taken for a number of 64 bits, a value keeps its number. -/
theorem Value.exists_asInteger (counted : value.wholeNumber? = some number) :
    ∃ wide : Int64, value.asInteger = some wide ∧ wide.toInt = number := by
  cases value <;> cases counted <;> exact ⟨_, rfl, by simp⟩

theorem Value.ne_null_of_wholeNumber? (counted : value.wholeNumber? = some number) :
    value ≠ .null := by
  rintro rfl
  cases counted

/-- An integer type stores a number in its range in one of the three widths and without change. -/
theorem IntegerType.wholeNumber?_storeInteger {type : IntegerType}
    (inside : type.least ≤ number ∧ number ≤ type.greatest) :
    (storeInteger type number).wholeNumber? = some number := by
  obtain ⟨least, most⟩ := inside
  cases type <;> simp only [IntegerType.least, IntegerType.greatest] at least most
  case int8 | int16 | uint8 =>
    exact congrArg some (Int16.toInt_ofInt_of_le (by omega) (by omega))
  case int32 | uint16 => exact congrArg some (Int32.toInt_ofInt_of_le (by omega) (by omega))
  case int64 | uint32 => exact congrArg some (Int64.toInt_ofInt_of_le (by omega) (by omega))

/-! ### Integer types -/

/-- What becomes of a number under an integer type keeps the number: if it is in the range of the
type it is stored in the width of the type, and otherwise it is named in the refusal. -/
def IntegerType.Keeps (type : IntegerType) (number : Int)
    (outcome : Except ConversionFault Value) : Prop :=
  if type.least ≤ number ∧ number ≤ type.greatest then
    ∃ stored, outcome = .ok stored ∧ type.kind.names stored = true ∧
      stored.wholeNumber? = some number
  else outcome = .error (.outOfRange number type)

/-- What becomes of a number under an integer type, whatever the width it comes in. -/
def IntegerType.take (type : IntegerType) (number : Int) : Except ConversionFault Value :=
  if type.least ≤ number ∧ number ≤ type.greatest then .ok (storeInteger type number)
  else .error (.outOfRange number type)

theorem IntegerType.keeps_take (type : IntegerType) (number : Int) :
    type.Keeps number (type.take number) := by
  unfold Keeps take
  split
  · rename_i inside
    exact ⟨_, rfl, names_of_storeInteger type number, wholeNumber?_storeInteger inside⟩
  · rfl

/-- Of a value of any width an integer type sees the number only. -/
theorem IntegerType.toInteger_eq_take (type : IntegerType)
    (counted : value.wholeNumber? = some number) : toInteger type value = type.take number := by
  obtain ⟨wide, taken, rfl⟩ := Value.exists_asInteger counted
  rw [toInteger, taken, take]

/-- A number is a truth value: whether it is not zero. -/
theorem toBool_of_wholeNumber? (counted : value.wholeNumber? = some number) :
    toBool value = .ok (.bool (number != 0)) := by
  obtain ⟨wide, taken, whole⟩ := Value.exists_asInteger counted
  have same : toBool value = .ok (.bool (wide != 0)) := by
    cases value <;> cases counted <;> cases taken <;> rfl
  have zero : (wide != 0) = (number != 0) := by
    rw [← whole, bne, bne, Bool.not_inj_iff]
    exact Bool.eq_iff_iff.mpr (by simp [← Int64.toInt_inj])
  rw [same, zero]

/-! ### Cells -/

/-- A cell of any width is read as a value with its number, where truth values or integers are
wanted. -/
theorem Wire.exists_decode {row : Row} {column : Nat} {cell : WireValue} {kind : Kind}
    (found : row[column]? = some (some cell)) (counted : cell.value.wholeNumber? = some number)
    (wanted : kind = .bool ∨ kind.isInteger = true) :
    ∃ read, Wire.decode row column kind = .ok read ∧ read.wholeNumber? = some number := by
  have whole : ∃ read, Wire.integer? cell = some read ∧ read.wholeNumber? = some number := by
    cases cell <;> cases counted <;> exact ⟨_, rfl, by simp [Value.wholeNumber?]⟩
  obtain ⟨read, same, kept⟩ := whole
  refine ⟨read, ?_, kept⟩
  have integral : Wire.decodePresent column cell kind = .ok read := by
    rcases wanted with rfl | wanted
    · simp only [Wire.decodePresent, same]
    · cases kind <;> cases wanted <;> simp only [Wire.decodePresent, same]
  rw [Wire.decode, found]
  exact integral

/-! ### Operands -/

/-- A value that has a number stands for the same number as another. -/
def Value.KeepsNumber (value operand : Value) : Prop :=
  ∀ number, value.wholeNumber? = some number → operand.wholeNumber? = some number

/-- On its way to the kind of an integer column a value keeps its number, or it is refused. -/
theorem coerceOperand_eq_take {kind : Kind} {type : IntegerType}
    (carried : kind.carrier? = some (.integer type)) (counted : value.wholeNumber? = some number) :
    coerceOperand kind value = (type.take number).mapError .conversion := by
  rw [coerceOperand, Value.coerce_of_carrier? carried (Value.ne_null_of_wholeNumber? counted),
    ← type.toInteger_eq_take counted]
  rfl

theorem Value.keepsNumber_of_comesTo {kind : Kind} {operand : Value}
    (integer : kind.isInteger = true) (comes : ComesTo kind value operand) :
    value.KeepsNumber operand := by
  intro number counted
  obtain ⟨type, carried⟩ : ∃ type : IntegerType, kind.carrier? = some (.integer type) := by
    cases kind <;> cases integer <;> exact ⟨_, rfl⟩
  have taken := coerceOperand_eq_take carried counted
  have kept := type.keeps_take number
  rw [coerceOperand_eq_ok.mpr comes] at taken
  rw [Outcome.mapError_eq_ok.mp taken.symm] at kept
  unfold IntegerType.Keeps at kept
  split at kept
  · obtain ⟨stored, same, -, whole⟩ := kept
    cases same
    exact whole
  · cases kept

/-- The values that a condition compares with. -/
def Condition.operands : Condition → List Value
  | .compare _ _ value _ => [value]
  | .like _ pattern => [pattern]
  | .among _ _ values _ => values
  | .absent _ _ | .constant _ => []

/-- What filters compare an integer column with keeps its numbers, patterns of texts apart. -/
theorem forall₂_keepsNumber_of_carries {field : Field} {filter : Filter} {condition : Condition}
    (integer : field.kind.isInteger = true)
    (noPattern : ∀ key pattern, filter ≠ .like key pattern)
    (carries : Carries field filter condition) :
    List.Forall₂ Value.KeepsNumber filter.operands condition.operands := by
  cases carries with
  | compare _ comes => exact .cons (Value.keepsNumber_of_comesTo integer comes) .nil
  | like => exact absurd rfl (noPattern _ _)
  | among _ come => exact come.imp fun _ _ => Value.keepsNumber_of_comesTo integer
  | constant | absent => exact .nil

/-! ### Whole numbers -/

/-- Integers are never changed by width. Under each integer type one thing becomes of a number, and
that keeps it: this is what is read into a field of the type, optional or not, from a cell of any
width, and what operands are brought to under the kind that the type carries. Truth values are told
from zero. All numbers survive that filters compare integer columns with and changes assign to
them. -/
theorem wholeNumbers_keep (number : Int) :
    (∀ type : IntegerType, ∃ outcome, type.Keeps number outcome ∧
      (∀ (row : Row) (column : Nat) (cell : WireValue) (isOptional : Bool),
        row[column]? = some (some cell) → cell.value.wholeNumber? = some number →
          ∃ read, Wire.decode row column type.kind = .ok read ∧
            ColumnType.convert ⟨.integer type, isOptional⟩ read = outcome) ∧
      ∀ (kind : Kind) (value : Value), kind.carrier? = some (.integer type) →
        value.wholeNumber? = some number →
          coerceOperand kind value = outcome.mapError .conversion) ∧
    (∀ (row : Row) (column : Nat) (cell : WireValue) (isOptional : Bool),
      row[column]? = some (some cell) → cell.value.wholeNumber? = some number →
        ∃ read, Wire.decode row column .bool = .ok read ∧
          ColumnType.convert ⟨.bool, isOptional⟩ read = .ok (.bool (number != 0))) ∧
    (∀ (model : Model) (filter : Filter) (condition : Condition) (field : Field),
      filter.condition model = .ok condition → model.resolve? filter.key = some field →
        field.kind.isInteger = true → (∀ key pattern, filter ≠ .like key pattern) →
          List.Forall₂ Value.KeepsNumber filter.operands condition.operands) ∧
    ∀ (given : Field × Value) (assigned : Assignment), Query.Assigns given assigned →
      given.1.kind.isInteger = true → given.2.KeepsNumber assigned.2 := by
  refine ⟨fun type => ⟨type.take number, type.keeps_take number, ?_, ?_⟩, ?_, ?_, ?_⟩
  · intro row column cell isOptional found counted
    have integer : type.kind.isInteger = true := by cases type <;> rfl
    obtain ⟨read, decoded, whole⟩ := Wire.exists_decode found counted (.inr integer)
    refine ⟨read, decoded, ?_⟩
    rw [ColumnType.convert_of_ne_null _ (Value.ne_null_of_wholeNumber? whole)]
    exact type.toInteger_eq_take whole
  · exact fun kind value => coerceOperand_eq_take
  · intro row column cell isOptional found counted
    obtain ⟨read, decoded, whole⟩ := Wire.exists_decode found counted (.inl rfl)
    refine ⟨read, decoded, ?_⟩
    rw [ColumnType.convert_of_ne_null _ (Value.ne_null_of_wholeNumber? whole)]
    exact toBool_of_wholeNumber? whole
  · intro model filter condition field carried found integer noPattern
    obtain ⟨other, same, carries⟩ := Filter.condition_eq_ok.mp carried
    cases found.symm.trans same
    exact forall₂_keepsNumber_of_carries integer noPattern carries
  · intro given assigned assigns integer
    exact Value.keepsNumber_of_comesTo integer (coerceOperand_eq_ok.mp assigns.2)

/-- A field of integers of 16 bits. -/
def pressure : Field where
  name := "pressure"
  kind := .smallInt
  column := "pressure"
  position := 0

/-- A model with one column. -/
def gauges : Model where
  name := "Gauge"
  table := "gauges"
  fields := [pressure]
  indexes := []
  hooks := []
  byName := ⟨[("pressure", 0)]⟩
  byColumn := ⟨[("pressure", 0)]⟩
  keyPlaces := []
  valueCount := 1

/-- Forty thousand fits 16 bits without a sign and not with one, in whatever width it arrives. -/
theorem wholeNumbers_keep_fortyThousand :
    (∃ read, Wire.decode [none, some (.int 40000)] 1 .int = .ok read ∧
      IntegerType.Keeps .uint16 40000 (ColumnType.convert ⟨.integer .uint16, true⟩ read)) ∧
    coerceOperand .smallInt (.bigInt 40000) = .error (.conversion (.outOfRange 40000 .int16)) ∧
    (∃ read, Wire.decode [some (.bigInt 40000)] 0 .bool = .ok read ∧
      ColumnType.convert ⟨.bool, false⟩ read = .ok (.bool true)) ∧
    (Value.bigInt 7).KeepsNumber (.smallInt 7) ∧
    List.Forall₂ Value.KeepsNumber [.int 7, .bigInt (-7)] [.smallInt 7, .smallInt (-7)] := by
  obtain ⟨integers, truths, filters, changes⟩ := wholeNumbers_keep 40000
  obtain ⟨unsigned, kept, cells, -⟩ := integers .uint16
  obtain ⟨signed, keptSigned, -, operands⟩ := integers .int16
  obtain ⟨read, decoded, same⟩ := cells [none, some (.int 40000)] 1 (.int 40000) true rfl
    (by decide)
  have refused : signed = .error (.outOfRange 40000 .int16) := keptSigned
  refine ⟨⟨read, decoded, same ▸ kept⟩, ?_, truths [some (.bigInt 40000)] 0 _ false rfl
    (by decide), ?_, ?_⟩
  · rw [operands .smallInt (.bigInt 40000) rfl (by decide), refused]
    rfl
  · exact changes (pressure, .bigInt 7) (pressure, .smallInt 7) ⟨rfl, by decide⟩ rfl
  · exact filters gauges (.among false "pressure" [.int 7, .bigInt (-7)])
      (.among false "pressure" [.smallInt 7, .smallInt (-7)] .smallInt) pressure (by decide)
      (by decide) rfl fun _ _ => Filter.noConfusion

end RecordMapper
