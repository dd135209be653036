/-
This file proves that conversion settles values. What a value has been brought to a kind as is of
the variant that the kind names, so that bringing it there once more changes nothing. What a host
program puts in comes out: every type of fields has its members, each member is stored as a value
of its own, and it is this value that the type and its kind leave as it is, also where the kind is
wider than the type. Floating-point numbers are members by their patterns, so that not a bit of them
is lost.
-/

import RecordMapper.Proofs.Value.Holding

namespace RecordMapper

open Calendar

/-! ### Members of types -/

/-- The numbers of an integer type. -/
def IntegerType.Member (type : IntegerType) : Type :=
  { number : Int // type.least ≤ number ∧ number ≤ type.greatest }

/-- What a host program can hold in a field of a scalar type. -/
def ScalarType.Member : ScalarType → Type
  | .bool => Bool
  | .integer type => type.Member
  | .float32 => UInt32
  | .float64 => UInt64
  | .string => String
  | .bytes => List UInt8
  | .uuid => Uuid
  | .date => Date
  | .time => TimeOfDay
  | .dateTime | .instant => Moment

namespace ScalarType

/-- The value as which a member of a type is stored. -/
def store : (type : ScalarType) → type.Member → Value
  | .bool, truth => .bool truth
  | .integer type, number => Conversion.storeInteger type number.val
  | .float32, pattern => .real pattern
  | .float64, pattern => .double pattern
  | .string, text => .text text
  | .bytes, octets => .blob octets
  | .uuid, identifier => .uuid identifier
  | .date, day => .date day
  | .time, clock => .time clock
  | .dateTime, moment => .dateTime moment
  | .instant, moment => .timestamp moment

/-- The value as which a member that may be missing is stored. -/
def storeOptional (type : ScalarType) : Option type.Member → Value
  | some member => type.store member
  | none => .null

end ScalarType

/-! ### Stored members -/

/-- Every number of an integer type is one of 64 bits. -/
theorem IntegerType.exists_int64 (type : IntegerType) (number : type.Member) :
    ∃ wide : Int64, wide.toInt = number.val := by
  obtain ⟨number, least, greatest⟩ := number
  refine ⟨Int64.ofInt number, Int64.toInt_ofInt_of_le ?_ ?_⟩ <;>
    cases type <;> simp only [IntegerType.least, IntegerType.greatest] at least greatest <;> omega

namespace ScalarType

variable {type : ScalarType}

/-- A type holds what its members are stored as. -/
theorem holds_store (member : type.Member) : type.holds (type.store member) = true := by
  cases type with
  | integer narrow =>
    obtain ⟨wide, same⟩ := narrow.exists_int64 member
    have inside := member.property
    rw [← same] at inside
    rw [holds, store, ← same]
    refine Bool.and_eq_true_iff.mpr ⟨Conversion.names_of_storeInteger narrow _, ?_⟩
    exact (IntegerType.reaches_iff (IntegerType.asInteger_storeInteger inside)).mpr inside
  | _ => rfl

/-- No two members of a type are stored alike. -/
theorem store_injective (type : ScalarType) : Function.Injective type.store := by
  intro member other stored
  cases type with
  | integer narrow =>
    obtain ⟨wide, same⟩ := narrow.exists_int64 member
    obtain ⟨otherWide, otherSame⟩ := narrow.exists_int64 other
    have inside := member.property
    have otherInside := other.property
    rw [← same] at inside
    rw [← otherSame] at otherInside
    have counted := IntegerType.asInteger_storeInteger inside
    rw [store, store, ← same, ← otherSame] at stored
    rw [stored, IntegerType.asInteger_storeInteger otherInside] at counted
    refine Subtype.ext ?_
    rw [← same, ← otherSame, Option.some_inj.mp counted]
  | _ =>
    cases stored
    rfl

theorem store_ne_null (member : type.Member) : type.store member ≠ .null :=
  ne_null_of_names (Bool.and_eq_true_iff.mp (holds_store member)).1

theorem storeOptional_injective (type : ScalarType) :
    Function.Injective type.storeOptional := by
  intro member other stored
  cases member with
  | none =>
    cases other with
    | none => rfl
    | some other => exact absurd stored.symm (store_ne_null other)
  | some member =>
    cases other with
    | none => exact absurd stored (store_ne_null member)
    | some other => exact congrArg some (type.store_injective stored)

/-- An optional type holds what its members, and their absence, are stored as. -/
theorem holds_storeOptional (member : Option type.Member) :
    ColumnType.holds ⟨type, true⟩ (type.storeOptional member) = true := by
  cases member with
  | none => rfl
  | some member =>
    have present : (type.store member).isNull = false :=
      Bool.eq_false_iff.mpr fun absent => store_ne_null member (Value.isNull_iff.mp absent)
    rw [ColumnType.holds, storeOptional, present]
    exact holds_store member

/-- Whatever a type holds is what one of its members is stored as. -/
theorem exists_member_of_holds {value : Value} (held : type.holds value = true) :
    ∃ member, type.store member = value := by
  obtain ⟨named, reached⟩ := Bool.and_eq_true_iff.mp held
  cases type with
  | integer narrow =>
    obtain ⟨number, counted, stores⟩ := IntegerType.exists_number named
    exact ⟨⟨number.toInt, (IntegerType.reaches_iff counted).mp reached⟩, stores⟩
  | _ =>
    cases value <;> cases named
    exact ⟨_, rfl⟩

end ScalarType

/-! ### Settled values -/

/-- A scalar type takes a value that it holds as it is. -/
theorem ScalarType.convert_of_holds {type : ScalarType} {value stored : Value}
    (held : type.holds value = true) : type.convert value = .ok stored ↔ stored = value := by
  rw [convert_eq_ok (Bool.and_eq_true_iff.mp held).1, and_iff_right held]

/-- A type of a field takes a value that it holds, or absence, as it is. -/
theorem ColumnType.convert_of_holds {type : ColumnType} {value stored : Value}
    (held : type.holds value = true) : type.convert value = .ok stored ↔ stored = value := by
  have fits : value = .null ∨ type.kind.names value = true := by
    refine or_iff_not_imp_left.mpr fun present => ?_
    rw [holds, Bool.eq_false_iff.mpr fun isNull => present (Value.isNull_iff.mp isNull)] at held
    exact (Bool.and_eq_true_iff.mp held).1
  rw [convert_eq_ok fits, and_iff_right held]

/-- What a value is brought to a kind as is absent if the value is, and otherwise of the variant
that the kind names, which for a kind that is not mapped means that it is the value; to bring it
there once more changes nothing. Conversion to a type gives what a member of the type is stored as,
and takes the stored value of a member for that member and no other; so it does where the member may
be missing, and the kind of the type leaves the stored value as it is. -/
theorem Value.coercion_settles :
    (∀ (value operand : Value) (kind : Kind), value.coerce kind = .ok operand →
      (operand = .null ↔ value = .null) ∧ (operand ≠ .null → kind.names operand = true) ∧
      (∀ name, kind = .other name → operand = value) ∧ operand.coerce kind = .ok operand) ∧
    ∀ type : ScalarType,
      (∀ value stored, type.convert value = .ok stored → ∃ member, stored = type.store member) ∧
      (∀ member : type.Member,
        (∀ other, type.convert (type.store member) = .ok (type.store other) ↔ other = member) ∧
        (type.store member).coerce type.kind = .ok (type.store member)) ∧
      ∀ member : Option type.Member,
        (∀ other, ColumnType.convert ⟨type, true⟩ (type.storeOptional member) =
          .ok (type.storeOptional other) ↔ other = member) ∧
        (type.storeOptional member).coerce type.kind = .ok (type.storeOptional member) := by
  refine ⟨fun value operand kind coerced => ?_, fun type => ⟨fun value stored converted => ?_,
    fun member => ⟨fun other => ?_, ?_⟩, fun member => ⟨fun other => ?_, ?_⟩⟩⟩
  · have unmapped (name : String) (isOther : kind = .other name) : operand = value := by
      subst isOther
      exact (Except.ok.inj ((coerce_of_names rfl).symm.trans coerced)).symm
    rcases Value.coerce_eq_ok coerced with ⟨rfl, rfl⟩ | ⟨present, kept, named⟩
    · exact ⟨Iff.rfl, fun present => absurd rfl present, unmapped, rfl⟩
    · exact ⟨iff_of_false kept present, fun _ => named, unmapped, coerce_of_names named⟩
  · obtain ⟨member, stores⟩ :=
      ScalarType.exists_member_of_holds (ScalarType.holds_of_convert converted)
    exact ⟨member, stores.symm⟩
  · rw [ScalarType.convert_of_holds (ScalarType.holds_store member), type.store_injective.eq_iff]
  · exact coerce_of_names (Bool.and_eq_true_iff.mp (ScalarType.holds_store member)).1
  · rw [ColumnType.convert_of_holds (ScalarType.holds_storeOptional member),
      type.storeOptional_injective.eq_iff]
  · exact ColumnType.coerce_of_holds (ScalarType.holds_storeOptional member)

/-- A text between blanks becomes a number once and for all, and the greatest byte comes back from a
kind that is wider than bytes are. -/
theorem Value.coercion_settles_answer :
    (Value.text " 42 ").coerce .smallInt = .ok (.smallInt 42) ∧
      (Value.smallInt 42).coerce .smallInt = .ok (.smallInt 42) ∧
      ScalarType.convert (.integer .uint8) (.smallInt 255) = .ok (.smallInt 255) := by
  have coerced : (Value.text " 42 ").coerce .smallInt = .ok (.smallInt 42) := by decide
  have taken := ((coercion_settles.2 (.integer .uint8)).2.1 ⟨255, by decide⟩).1 ⟨255, by decide⟩
  exact ⟨coerced, (coercion_settles.1 _ _ _ coerced).2.2.2, taken.mpr rfl⟩

end RecordMapper
