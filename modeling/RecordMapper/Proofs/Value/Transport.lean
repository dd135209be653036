/-
This file proves that values survive the way to a database and back. A value that a type holds is
bound in a form that the wire has a kind for, and what a cell of that form is read as is converted
to the value again. Numbers come back as the widest there are, identifiers, dates and times as
text; the types of their fields bring them back. What is lost is what the stored texts of times
leave out, the digits below the microsecond and that a second was a leap second if it did not end a
minute.
-/

import RecordMapper.Dialect.Registry
import RecordMapper.Filter.Condition
import RecordMapper.Proofs.Calendar.RoundTrip
import RecordMapper.Proofs.Uuid
import RecordMapper.Proofs.Value.Holding
import RecordMapper.Statement.Binding
import RecordMapper.Wire.Decoding

namespace RecordMapper

/-! ### Products -/

/-- The database products whose dialects the library brings along. -/
inductive DatabaseProduct
  | postgres
  | mySql
  | sqlite
  deriving DecidableEq

namespace DatabaseProduct

/-- The dialect of a product. -/
def dialect : DatabaseProduct → Dialect
  | .postgres => .postgres
  | .mySql => .mySql
  | .sqlite => .sqlite

/-- What a product keeps of a value that it can write: times and moments to the microsecond,
instants to the microsecond only if it is MySQL, and all else as it is. -/
def kept (product : DatabaseProduct) : Value → Value
  | .time value => .time value.toMicroseconds
  | .dateTime value => .dateTime value.toMicroseconds
  | .timestamp value =>
    .timestamp (if product = .mySql then value.toMicroseconds else value)
  | value => value

end DatabaseProduct

/-- Whether a value, if it is an instant, has a year of four digits, as its text wants it. -/
def Value.hasPlainYear : Value → Bool
  | .timestamp value => 0 ≤ value.date.year ∧ value.date.year ≤ 9999
  | _ => true

/-- Whether the leap second of a value, if it has one, is in its place. -/
def Value.hasPlainSecond : Value → Bool
  | .time value => value.HasPlainSecond
  | .dateTime value | .timestamp value => value.time.HasPlainSecond
  | _ => true

/-- The value that is written in place of a value. -/
def Value.asShown : Value → Value
  | .time value => .time value.asShown
  | .dateTime value => .dateTime value.asShown
  | .timestamp value => .timestamp value.asShown
  | value => value

theorem Value.asShown_eq_self_iff {value : Value} :
    value.asShown = value ↔ value.hasPlainSecond = true := by
  cases value <;>
    simp [asShown, hasPlainSecond, Calendar.TimeOfDay.asShown_eq_self_iff,
      Calendar.Moment.asShown_eq_self_iff]

/-- The cell that holds an argument. -/
def WireArgument.cell : WireArgument → Option WireValue
  | .absent _ => none
  | .present value => some value

/-! ### Texts -/

namespace ScalarType

open Calendar

theorem convert_uuidText (uuid : Uuid) :
    ScalarType.uuid.convert (.text uuid.text) = .ok (.uuid uuid) := by
  simp only [convert, Conversion.toUuid, Uuid.read_text]

theorem convert_dateText (date : Date) :
    ScalarType.date.convert (.text date.text) = .ok (.date date) := by
  simp only [convert, Conversion.toDate, Conversion.dateOfText, date?_text, Except.map]

theorem convert_timeText (time : TimeOfDay) :
    ScalarType.time.convert (.text time.stored) = .ok (.time time.asShown.toMicroseconds) := by
  simp only [convert, Conversion.toTime, Conversion.timeOfText, readTime_stored, Except.map]

theorem convert_momentText (moment : Moment) :
    dateTime.convert (.text moment.stored) = .ok (.dateTime moment.asShown.toMicroseconds) := by
  simp only [convert, Conversion.toDateTime, Conversion.momentOfText, moment?_stored, Except.map]

theorem convert_storedInstant (moment : Moment) :
    instant.convert (.text moment.stored) = .ok (.timestamp moment.asShown.toMicroseconds) := by
  simp only [convert, Conversion.toInstant, Conversion.instantOfText, instant?_stored, Except.map]

theorem convert_internetInstant {moment : Moment} (least : 0 ≤ moment.date.year)
    (most : moment.date.year ≤ 9999) :
    instant.convert (.text moment.internet) = .ok (.timestamp moment.asShown) := by
  simp only [convert, Conversion.toInstant, Conversion.instantOfText,
    instant?_internet least most, Except.map]

end ScalarType

variable {product : DatabaseProduct} {value : Value}

/-! ### Values that are present -/

/-- A value of a type comes back from a product: it is bound in a form that is read as a value of
the kind of the type, which the type converts to what the product keeps of what is written. -/
def DatabaseProduct.Returns (product : DatabaseProduct) (type : ScalarType) (value : Value) :
    Prop :=
  ∃ cell, product.dialect.bindArgument (value, type.kind) = .ok (.present cell) ∧
    ∃ read, (∀ column, Wire.decodePresent column cell type.kind = .ok read) ∧
      type.convert read = .ok (product.kept value.asShown)

/-- Integers come back, whatever width they are read with. -/
theorem DatabaseProduct.returns_integer {type : IntegerType} (named : type.kind.names value = true)
    (reached : type.reaches value = true) : product.Returns (.integer type) value := by
  obtain ⟨number, counted, stores⟩ := IntegerType.exists_number named
  have inside := (IntegerType.reaches_iff counted).mp reached
  have converted : Conversion.toInteger type (.bigInt number) = .ok value := by
    simp only [Conversion.toInteger, Value.asInteger, inside, and_self, if_true, stores]
  have carried : ∃ cell, product.dialect.bindArgument (value, type.kind) = .ok (.present cell) ∧
      (∀ column, Wire.decodePresent column cell type.kind = .ok (.bigInt number)) ∧
      product.kept value.asShown = value := by
    cases type <;> cases value <;> cases named <;> cases counted <;>
      exact ⟨_, rfl, fun _ => rfl, rfl⟩
  obtain ⟨cell, bound, read, whole⟩ := carried
  exact ⟨cell, bound, _, read, by rw [whole]; exact converted⟩

/-- What travels as text comes back if the type reads the text. -/
theorem DatabaseProduct.returns_text {type : ScalarType} {text : String}
    (bound : product.dialect.bindArgument (value, type.kind) = .ok (.present (.text text)))
    (textual : type.kind.isTextual = true)
    (converted : type.convert (.text text) = .ok (product.kept value.asShown)) :
    product.Returns type value := by
  refine ⟨_, bound, .text text, fun column => ?_, converted⟩
  cases kind : type.kind <;> rw [kind] at textual <;> first | rfl | cases textual

/-- Every value that a scalar type holds comes back from every product. -/
theorem DatabaseProduct.returns_of_holds (product : DatabaseProduct) {type : ScalarType}
    (held : type.holds value = true) (plain : value.hasPlainYear = true) :
    product.Returns type value := by
  obtain ⟨named, reached⟩ := Bool.and_eq_true_iff.mp held
  cases type with
  | integer type => exact returns_integer named reached
  | uuid =>
    cases value <;> cases named
    exact returns_text rfl rfl (ScalarType.convert_uuidText _)
  | date =>
    cases value <;> cases named
    rename_i date
    have bound : product.dialect.bindArgument (.date date, .date) =
        .ok (.present (.text date.text)) := by cases product <;> rfl
    exact returns_text bound rfl (ScalarType.convert_dateText date)
  | time =>
    cases value <;> cases named
    rename_i time
    have bound : product.dialect.bindArgument (.time time, .time) =
        .ok (.present (.text time.stored)) := by cases product <;> rfl
    exact returns_text bound rfl (ScalarType.convert_timeText time)
  | dateTime =>
    cases value <;> cases named
    rename_i moment
    have bound : product.dialect.bindArgument (.dateTime moment, .dateTime) =
        .ok (.present (.text moment.stored)) := by cases product <;> rfl
    exact returns_text bound rfl (ScalarType.convert_momentText moment)
  | instant =>
    cases value <;> cases named
    rename_i moment
    obtain ⟨least, most⟩ := of_decide_eq_true plain
    -- MySQL is the one product whose stored text of an instant has no offset.
    by_cases noOffsets : product = .mySql
    · subst noOffsets
      exact returns_text rfl rfl (ScalarType.convert_storedInstant moment)
    · have bound : product.dialect.bindArgument (.timestamp moment, .timestamp) =
          .ok (.present (.text moment.internet)) := by
        cases product <;> first | rfl | exact absurd rfl noOffsets
      have whole : product.kept (Value.timestamp moment).asShown = .timestamp moment.asShown :=
        congrArg Value.timestamp (if_neg noOffsets)
      refine returns_text bound rfl ?_
      rw [whole]
      exact ScalarType.convert_internetInstant least most
  | _ =>
    cases value <;> cases named
    exact ⟨_, rfl, _, fun _ => rfl, rfl⟩

/-! ### Values of fields -/

/-- A value that a type of a field holds is brought to the kind of the type as it is, is bound, and
comes back from the cell that holds it. -/
theorem DatabaseProduct.returns_column (product : DatabaseProduct) {type : ColumnType}
    (held : type.holds value = true) (plain : value.hasPlainYear = true) :
    coerceOperand type.kind value = .ok value ∧
      ∃ argument, product.dialect.bindArgument (value, type.kind) = .ok argument ∧
        ∀ (row : Row) (column : Nat), row[column]? = some argument.cell →
          ∃ read, Wire.decode row column type.kind = .ok read ∧
            type.convert read = .ok (product.kept value.asShown) := by
  by_cases absent : value = .null
  · subst absent
    refine ⟨rfl, .absent type.kind.wire, rfl, fun row column found => ⟨.null, ?_, ?_⟩⟩
    · rw [Wire.decode, found]
      rfl
    · exact (ColumnType.convert_eq_ok (.inl rfl)).mpr ⟨held, rfl⟩
  · have present : value.isNull = false :=
      Bool.eq_false_iff.mpr fun isNull => absent (Value.isNull_iff.mp isNull)
    have heldThere : type.scalar.holds value = true := by
      rw [ColumnType.holds, present] at held
      exact held
    have named : type.kind.names value = true := (Bool.and_eq_true_iff.mp heldThere).1
    refine ⟨by rw [coerceOperand, Value.coerce_of_names named]; rfl, ?_⟩
    obtain ⟨cell, bound, read, decoded, converted⟩ :=
      product.returns_of_holds heldThere plain
    refine ⟨.present cell, bound, fun row column found => ⟨read, ?_, ?_⟩⟩
    · rw [Wire.decode, found]
      exact decoded column
    · have readPresent : read ≠ .null := by
        rintro rfl
        exact type.scalar.convert_null converted
      rw [type.convert_of_ne_null readPresent]
      exact converted

end RecordMapper
