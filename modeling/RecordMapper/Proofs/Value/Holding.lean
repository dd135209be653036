/-
This file says which values a type holds, and that holding is what conversion comes to on values
of the right variant. The kind under which a type stores its values may be wider than the type: a
value of the variant that the kind names is then refused if its number lies outside the range of
the type, and absence is refused where the type does not allow it. Nothing else is ever refused.
-/

import RecordMapper.Proofs.Value.Coercion

namespace RecordMapper

/-! ### Values that types hold -/

/-- Whether the number of a value, if it has one, lies in the range of an integer type. -/
def IntegerType.reaches (type : IntegerType) (value : Value) : Bool :=
  value.asInteger.any fun number => type.least ≤ number.toInt ∧ number.toInt ≤ type.greatest

/-- Whether a type holds a value: it is of the variant under which the type stores its values, and
of an integer type the range reaches it. -/
def ScalarType.holds (type : ScalarType) (value : Value) : Bool :=
  type.kind.names value &&
    match type with
    | .integer narrow => narrow.reaches value
    | _ => true

/-- Whether a type of a field holds a value, which may be absent if the type is optional. -/
def ColumnType.holds (type : ColumnType) (value : Value) : Bool :=
  if value.isNull then type.isOptional else type.scalar.holds value

variable {value stored : Value}

/-! ### Integers -/

/-- A value of the variant of an integer type has a number, and storing it gives the value. -/
theorem IntegerType.exists_number {type : IntegerType} (named : type.kind.names value = true) :
    ∃ number, value.asInteger = some number ∧
      Conversion.storeInteger type number.toInt = value := by
  cases type <;> cases value <;> cases named <;>
    exact ⟨_, rfl, by simp [Conversion.storeInteger, IntegerType.kind]⟩

theorem IntegerType.reaches_iff {type : IntegerType} {number : Int64}
    (counted : value.asInteger = some number) :
    type.reaches value = true ↔ type.least ≤ number.toInt ∧ number.toInt ≤ type.greatest := by
  unfold reaches
  rw [counted, Option.any_some, decide_eq_true_iff]

/-- An integer type takes a value of its variant if its range reaches it, and then as it is. -/
theorem IntegerType.convert_eq_ok {type : IntegerType} (named : type.kind.names value = true) :
    Conversion.toInteger type value = .ok stored ↔ type.reaches value = true ∧ stored = value := by
  obtain ⟨number, counted, stores⟩ := type.exists_number named
  rw [reaches_iff counted, Conversion.toInteger, counted]
  by_cases inside : type.least ≤ number.toInt ∧ number.toInt ≤ type.greatest
  · simp [inside, stores, eq_comm]
  · simp [inside]

/-! ### Conversion of values that are held -/

/-- A type takes a value of its variant if it holds the value, and then as it is. -/
theorem ScalarType.convert_eq_ok {type : ScalarType} (named : type.kind.names value = true) :
    type.convert value = .ok stored ↔ type.holds value = true ∧ stored = value := by
  cases type with
  | integer narrow =>
    rw [holds, named, Bool.true_and]
    exact IntegerType.convert_eq_ok named
  | _ =>
    cases value <;> cases named
    simp [convert, holds, Kind.names, kind, Conversion.toBool, Conversion.toFloat32,
      Conversion.toFloat64, Conversion.toText, Conversion.textOf, Conversion.toBytes,
      Conversion.toUuid, Conversion.toDate, Conversion.toTime, Conversion.toDateTime,
      Conversion.toInstant, Value.asDouble, Except.map, eq_comm]

/-- No scalar type takes absence. -/
theorem ScalarType.convert_null (type : ScalarType) : type.convert .null ≠ .ok stored := by
  cases type <;> exact nofun

/-- No scalar type stores its values as absence. -/
theorem ScalarType.ne_null_of_names {type : ScalarType} (named : type.kind.names value = true) :
    value ≠ .null := by
  rintro rfl
  cases type with
  | integer narrow => cases narrow <;> cases named
  | _ => cases named

/-- Whether a type of a field is optional makes no difference to values that are present. -/
theorem ColumnType.convert_of_ne_null (type : ColumnType) (present : value ≠ .null) :
    type.convert value = type.scalar.convert value := by
  unfold convert
  split
  · exact absurd rfl present
  · rfl

/-- A type of a field takes absence and values of its variant if it holds them, and then as they
are. -/
theorem ColumnType.convert_eq_ok {type : ColumnType}
    (fits : value = .null ∨ type.kind.names value = true) :
    type.convert value = .ok stored ↔ type.holds value = true ∧ stored = value := by
  unfold holds
  rcases fits with rfl | named
  · unfold convert
    cases type.isOptional with
    | true => simp [Value.isNull, eq_comm]
    | false => simp [Value.isNull, type.scalar.convert_null]
  · have present := ScalarType.ne_null_of_names named
    rw [type.convert_of_ne_null present,
      Bool.eq_false_iff.mpr fun absent => present (Value.isNull_iff.mp absent)]
    exact ScalarType.convert_eq_ok named

/-! ### Kinds -/

/-- A type that carries a kind holds every value of the variant that the kind names. -/
theorem Kind.holds_of_carrier? {kind : Kind} {type : ScalarType}
    (carried : kind.carrier? = some type) (named : kind.names value = true) :
    type.holds value = true := by
  unfold ScalarType.holds
  rw [Kind.kind_of_carrier? carried, named, Bool.true_and]
  cases kind <;> cases carried <;> try rfl
  all_goals
    cases value <;> cases named
    rename_i number
    have := number.le_toInt
    have := number.toInt_lt
    refine (IntegerType.reaches_iff rfl).mpr ?_
    simp only [Int64.ofInt_int16ToInt, Int16.toInt_toInt64, Int64.ofInt_int32ToInt,
      Int32.toInt_toInt64, IntegerType.least, IntegerType.greatest]
    omega

/-- Bringing a value to the kind that names its variant changes nothing. -/
theorem Value.coerce_of_names {kind : Kind} (named : kind.names value = true) :
    value.coerce kind = .ok value := by
  unfold coerce
  split
  · rfl
  · rfl
  · rename_i type carried
    have held := Kind.holds_of_carrier? carried named
    rw [← Kind.kind_of_carrier? carried] at named
    exact (ScalarType.convert_eq_ok named).mpr ⟨held, rfl⟩

/-- Bringing a value that a type of a field holds to the kind of the type changes nothing. -/
theorem ColumnType.coerce_of_holds {type : ColumnType} (held : type.holds value = true) :
    value.coerce type.kind = .ok value := by
  by_cases absent : value = .null
  · subst absent
    rfl
  · rw [holds, Bool.eq_false_iff.mpr fun isNull => absent (Value.isNull_iff.mp isNull)] at held
    exact Value.coerce_of_names (Bool.and_eq_true_iff.mp held).1

/-! ### Values that conversion gives -/

/-- What an integer type stores for a number within its range has that number. -/
theorem IntegerType.asInteger_storeInteger {type : IntegerType} {number : Int64}
    (inside : type.least ≤ number.toInt ∧ number.toInt ≤ type.greatest) :
    (Conversion.storeInteger type number.toInt).asInteger = some number := by
  cases type <;> simp only [least, greatest] at inside <;>
    simp only [Conversion.storeInteger, kind, Value.asInteger, Option.some.injEq,
      Int64.ofInt_toInt] <;>
    first
    | rw [Int16.toInt_ofInt_of_le (by omega) (by omega), Int64.ofInt_toInt]
    | rw [Int32.toInt_ofInt_of_le (by omega) (by omega), Int64.ofInt_toInt]

/-- The range of an integer type reaches what the type converts a value to. -/
theorem IntegerType.reaches_of_toInteger {type : IntegerType}
    (converted : Conversion.toInteger type value = .ok stored) : type.reaches stored = true := by
  unfold Conversion.toInteger at converted
  split at converted
  · cases converted
  split at converted
  · rename_i inside
    cases converted
    exact (reaches_iff (asInteger_storeInteger inside)).mpr inside
  · cases converted

/-- A type holds what it converts a value to. -/
theorem ScalarType.holds_of_convert {type : ScalarType}
    (converted : type.convert value = .ok stored) :
    type.holds stored = true := by
  have named := ScalarType.names_of_convert converted
  cases type with
  | integer narrow =>
    rw [holds, named, Bool.true_and]
    exact IntegerType.reaches_of_toInteger converted
  | _ => exact Bool.and_eq_true_iff.mpr ⟨named, rfl⟩

/-- A type of a field holds what it converts a value to. -/
theorem ColumnType.holds_of_convert {type : ColumnType}
    (converted : type.convert value = .ok stored) : type.holds stored = true := by
  unfold convert at converted
  split at converted
  · rename_i isOptional
    cases converted
    exact isOptional
  · have present := ScalarType.ne_null_of_names (ScalarType.names_of_convert converted)
    rw [holds, Bool.eq_false_iff.mpr fun isNull => present (Value.isNull_iff.mp isNull)]
    exact ScalarType.holds_of_convert converted

/-! ### Values that types do not hold -/

/-- Whether an integer type is narrower than the kind under which it stores its values. -/
def IntegerType.isNarrow (type : IntegerType) : Bool :=
  type.kind.carrier? != some (.integer type)

/-- The range of an integer type that is as wide as its kind reaches every value of its variant. -/
theorem IntegerType.reaches_of_not_isNarrow {type : IntegerType} (wide : type.isNarrow = false)
    (named : type.kind.names value = true) : type.reaches value = true := by
  have carried : type.kind.carrier? = some (.integer type) := by
    simpa [isNarrow] using wide
  have held := Kind.holds_of_carrier? carried named
  unfold ScalarType.holds at held
  exact (Bool.and_eq_true_iff.mp held).2

/-- Of absence and the values of its variant, a type of a field fails to hold absence, if it is not
optional, and numbers out of range, if it is narrow. -/
theorem ColumnType.holds_eq_false_iff {type : ColumnType}
    (fits : value = .null ∨ type.kind.names value = true) :
    type.holds value = false ↔ (value = .null ∧ type.isOptional = false) ∨
      ∃ narrow number, type.scalar = .integer narrow ∧ narrow.isNarrow = true ∧
        value.asInteger = some number ∧
        (number.toInt < narrow.least ∨ narrow.greatest < number.toInt) := by
  unfold holds
  rcases fits with rfl | named
  · simp [Value.isNull, Value.asInteger]
  have present := ScalarType.ne_null_of_names named
  rw [Bool.eq_false_iff.mpr fun absent => present (Value.isNull_iff.mp absent),
    or_iff_right fun absent => present absent.1]
  unfold ScalarType.holds
  rw [show type.scalar.kind.names value = true from named]
  unfold kind at named
  cases scalar : type.scalar with
  | integer narrow =>
    rw [scalar] at named
    obtain ⟨number, counted, -⟩ := narrow.exists_number named
    simp only [Bool.true_and, Bool.false_eq_true, if_false]
    rw [Bool.eq_false_iff, Ne, IntegerType.reaches_iff counted]
    constructor
    · intro outside
      have narrows : narrow.isNarrow = true := by
        by_contra wide
        exact outside ((IntegerType.reaches_iff counted).mp
          (narrow.reaches_of_not_isNarrow (Bool.eq_false_iff.mpr wide) named))
      exact ⟨narrow, number, rfl, narrows, counted, by omega⟩
    · rintro ⟨other, another, same, -, countedAgain, outside⟩
      cases same
      cases counted.symm.trans countedAgain
      omega
  | _ => simp

end RecordMapper
