/-
This file proves that numbers written to one width stand in the order of their texts. Runs of
digits of one length compare as the numbers that they stand for. Runs of different length compare
so as well if they are fractions, zeros being thought behind the shorter one, as long as something
less than every digit follows them both. What holds of characters holds of the bytes in which
texts of the first 128 characters travel.
-/

import RecordMapper.Proofs.Text.Bytes
import RecordMapper.Proofs.Text.Digits
import Mathlib.Data.List.Lex

namespace RecordMapper.Text

/-! ### Texts one after the other -/

section

variable {first second rest other : List Char}

/-- Behind texts of one length it is these that decide, and what follows only where they agree. -/
theorem append_lt_append_iff (same : first.length = second.length) :
    first ++ rest < second ++ other ↔ first < second ∨ first = second ∧ rest < other := by
  induction first generalizing second with
  | nil =>
    obtain rfl := List.eq_nil_of_length_eq_zero same.symm
    simp
  | cons character first inductionHypothesis =>
    cases second with
    | nil => cases same
    | cons counterpart second =>
      rw [List.cons_append, List.cons_append, List.cons_lt_cons_iff, List.cons_lt_cons_iff,
        inductionHypothesis (Nat.succ.inj same), List.cons.injEq]
      simp only [and_or_left, or_assoc, and_assoc]

theorem cons_lt_cons_self {character : Char} :
    character :: rest < character :: other ↔ rest < other := by
  rw [List.cons_lt_cons_iff]
  simp

end

/-! ### Digits -/

/-- The number that a digit stands for. -/
def digitOf (digit : Char) : Nat := digit.toNat - 48

section

variable {digit counterpart : Char} (isDigit : digit.isDigit = true)

include isDigit

theorem digitOf_lt : digitOf digit < 10 := by
  have range := toNat_of_isDigit isDigit
  unfold digitOf
  omega

variable (isDigitToo : counterpart.isDigit = true)

include isDigitToo

theorem digit_lt_iff : digit < counterpart ↔ digitOf digit < digitOf counterpart := by
  have range := toNat_of_isDigit isDigit
  have rangeToo := toNat_of_isDigit isDigitToo
  unfold digitOf
  rw [Char.lt_def, UInt32.lt_iff_toNat_lt]
  show digit.toNat < counterpart.toNat ↔ _
  omega

theorem digit_eq_iff : digit = counterpart ↔ digitOf digit = digitOf counterpart := by
  have range := toNat_of_isDigit isDigit
  have rangeToo := toNat_of_isDigit isDigitToo
  unfold digitOf
  rw [← Char.toNat_inj]
  omega

end

/-- A number of two places compares by the greater place first. -/
theorem places_lt_iff {base high low higher lower : Nat} (room : low < base)
    (roomToo : lower < base) :
    base * high + low < base * higher + lower ↔ high < higher ∨ high = higher ∧ low < lower := by
  rcases Nat.lt_trichotomy high higher with less | rfl | greater
  · have step : base * (high + 1) ≤ base * higher := Nat.mul_le_mul_left base less
    rw [Nat.mul_succ] at step
    exact iff_of_true (by omega) (.inl less)
  · omega
  · have step : base * (higher + 1) ≤ base * high := Nat.mul_le_mul_left base greater
    rw [Nat.mul_succ] at step
    exact iff_of_false (by omega) (by omega)

theorem ofDigitChars_cons (digit : Char) (digits : List Char) :
    Nat.ofDigitChars 10 (digit :: digits) 0 =
      Nat.pow 10 digits.length * digitOf digit + Nat.ofDigitChars 10 digits 0 := by
  rw [Nat.ofDigitChars_cons, Nat.ofDigitChars_eq_ofDigitChars_zero, Nat.mul_zero, Nat.zero_add]
  rfl

/-- A run of digits stands for a number that has room in its length. -/
theorem ofDigitChars_lt {digits : List Char} (areDigits : IsDigits digits) :
    Nat.ofDigitChars 10 digits 0 < Nat.pow 10 digits.length := by
  induction digits with
  | nil => decide
  | cons digit rest inductionHypothesis =>
    have behind := inductionHypothesis fun each later =>
      areDigits each (List.mem_cons_of_mem _ later)
    have single := digitOf_lt (areDigits digit List.mem_cons_self)
    have front := Nat.mul_le_mul_left (Nat.pow 10 rest.length) (Nat.le_of_lt_succ single)
    have power : Nat.pow 10 (rest.length + 1) = Nat.pow 10 rest.length * 10 := rfl
    rw [ofDigitChars_cons, List.length_cons, power]
    omega

/-- Runs of digits of one length compare as the numbers that they stand for. -/
theorem isDigits_lt_iff {first second : List Char} (areDigits : IsDigits first)
    (areDigitsToo : IsDigits second) (same : first.length = second.length) :
    first < second ↔ Nat.ofDigitChars 10 first 0 < Nat.ofDigitChars 10 second 0 := by
  induction first generalizing second with
  | nil =>
    obtain rfl := List.eq_nil_of_length_eq_zero same.symm
    simp
  | cons digit first inductionHypothesis =>
    cases second with
    | nil => cases same
    | cons counterpart second =>
      have behind : IsDigits first := fun each later =>
        areDigits each (List.mem_cons_of_mem _ later)
      have behindToo : IsDigits second := fun each later =>
        areDigitsToo each (List.mem_cons_of_mem _ later)
      have lengths : first.length = second.length := Nat.succ.inj same
      have room := ofDigitChars_lt behind
      have roomToo := ofDigitChars_lt behindToo
      have isDigit := areDigits digit List.mem_cons_self
      have isDigitToo := areDigitsToo counterpart List.mem_cons_self
      rw [← lengths] at roomToo
      rw [List.cons_lt_cons_iff, inductionHypothesis behind behindToo lengths, ofDigitChars_cons,
        ofDigitChars_cons, ← lengths, places_lt_iff room roomToo, digit_lt_iff isDigit isDigitToo,
        digit_eq_iff isDigit isDigitToo]

/-! ### Padded numbers -/

theorem ofDigitChars_paddedText (width value : Nat) :
    Nat.ofDigitChars 10 (paddedText width value).toList 0 = value := by
  rw [toList_paddedText, ofDigitChars_replicate, Nat.ofDigitChars_ten_toDigits]

/-- Numbers that have room in a width stand in the order of their texts, whatever follows them. -/
theorem paddedText_append_lt_iff {width value greater : Nat} {rest other : List Char}
    (positive : 0 < width) (room : value < Nat.pow 10 width)
    (roomToo : greater < Nat.pow 10 width) :
    (paddedText width value).toList ++ rest < (paddedText width greater).toList ++ other ↔
      value < greater ∨ value = greater ∧ rest < other := by
  have lengths :
      (paddedText width value).toList.length = (paddedText width greater).toList.length :=
    (length_paddedText room positive).trans (length_paddedText roomToo positive).symm
  have equal : (paddedText width value).toList = (paddedText width greater).toList ↔
      value = greater := by
    refine ⟨fun same => ?_, fun same => by rw [same]⟩
    rw [← ofDigitChars_paddedText width value, same, ofDigitChars_paddedText]
  rw [append_lt_append_iff lengths, equal,
    isDigits_lt_iff (isDigits_paddedText width value) (isDigits_paddedText width greater) lengths,
    ofDigitChars_paddedText, ofDigitChars_paddedText]

/-! ### Fractions -/

/-- A run of digits with zeros behind it up to a number of places. -/
def filled (places : Nat) (digits : List Char) : List Char :=
  digits ++ List.replicate (places - digits.length) '0'

theorem isDigits_replicate (count : Nat) : IsDigits (List.replicate count '0') := by
  intro character member
  rw [List.eq_of_mem_replicate member]
  rfl

theorem isDigits_filled {digits : List Char} (areDigits : IsDigits digits) (places : Nat) :
    IsDigits (filled places digits) :=
  isDigits_append.mpr ⟨areDigits, isDigits_replicate _⟩

theorem length_filled {digits : List Char} {places : Nat} (short : digits.length ≤ places) :
    (filled places digits).length = places := by
  rw [filled, List.length_append, List.length_replicate]
  omega

/-- Zeros behind a run of digits count as powers of ten. -/
theorem ofDigitChars_filled (digits : List Char) (places : Nat) :
    Nat.ofDigitChars 10 (filled places digits) 0 =
      Nat.ofDigitChars 10 digits 0 * Nat.pow 10 (places - digits.length) := by
  rw [filled, Nat.ofDigitChars_append, Nat.ofDigitChars_replicate_zero, Nat.mul_comm]
  rfl

theorem filled_cons {digit : Char} {digits : List Char} {places : Nat}
    (short : (digit :: digits).length ≤ places) :
    filled places (digit :: digits) = digit :: filled (places - 1) digits := by
  rw [List.length_cons] at short
  have zeros : places - (digits.length + 1) = places - 1 - digits.length := by omega
  rw [filled, filled, List.length_cons, List.cons_append, zeros]

/-- Fractions of different length stand in the order of their texts, as long as both are followed
by something that is less than every digit. -/
theorem append_lt_append_of_filled {stop : Char} (less : stop < '0') {places : Nat}
    {first second rest other : List Char} (areDigits : IsDigits first)
    (areDigitsToo : IsDigits second) (short : first.length ≤ places)
    (shortToo : second.length ≤ places) (ordered : filled places first < filled places second) :
    first ++ stop :: rest < second ++ stop :: other := by
  induction first generalizing second places with
  | nil =>
    cases second with
    | nil => exact absurd ordered (List.lt_irrefl _)
    | cons counterpart second =>
      have digit := toNat_of_isDigit (areDigitsToo counterpart List.mem_cons_self)
      refine List.cons_lt_cons_iff.mpr (.inl (lt_of_lt_of_le less ?_))
      rw [Char.le_def, UInt32.le_iff_toNat_le]
      exact digit.1
  | cons digit first inductionHypothesis =>
    cases second with
    | nil =>
      -- No run of digits is less than zeros.
      rw [isDigits_lt_iff (isDigits_filled areDigits places) (isDigits_filled areDigitsToo places)
        ((length_filled short).trans (length_filled shortToo).symm),
        ofDigitChars_filled [] places] at ordered
      exact absurd ordered (by simp)
    | cons counterpart second =>
      rw [filled_cons short, filled_cons shortToo, List.cons_lt_cons_iff] at ordered
      rw [List.cons_append, List.cons_append, List.cons_lt_cons_iff]
      refine ordered.imp_right fun ⟨same, behind⟩ => ⟨same, ?_⟩
      rw [List.length_cons] at short shortToo
      exact inductionHypothesis (fun each later => areDigits each (List.mem_cons_of_mem _ later))
        (fun each later => areDigitsToo each (List.mem_cons_of_mem _ later)) (by omega) (by omega)
        behind

/-! ### Bytes -/

theorem isAscii_paddedText (width value : Nat) : IsAscii (paddedText width value).toList := by
  intro character member
  have range := toNat_of_isDigit (isDigits_paddedText width value character member)
  omega

/-- Texts of the first 128 characters stand in the order of their bytes. -/
theorem utf8_lt_iff {text other : String} (ascii : IsAscii text.toList)
    (asciiToo : IsAscii other.toList) : utf8 text < utf8 other ↔ text.toList < other.toList := by
  rw [utf8_of_isAscii ascii, utf8_of_isAscii asciiToo]
  generalize text.toList = first, other.toList = second at ascii asciiToo
  induction first generalizing second with
  | nil => cases second <;> simp
  | cons character first inductionHypothesis =>
    cases second with
    | nil => simp
    | cons counterpart second =>
      have code := toNat_toUInt8 (ascii character List.mem_cons_self)
      have codeToo := toNat_toUInt8 (asciiToo counterpart List.mem_cons_self)
      have less : character.val.toUInt8 < counterpart.val.toUInt8 ↔ character < counterpart := by
        rw [UInt8.lt_iff_toNat_lt, code, codeToo, Char.lt_def, UInt32.lt_iff_toNat_lt]
        rfl
      have same : character.val.toUInt8 = counterpart.val.toUInt8 ↔ character = counterpart := by
        rw [← UInt8.toNat_inj, code, codeToo, Char.toNat_inj]
      rw [List.map_cons, List.map_cons, List.cons_lt_cons_iff, List.cons_lt_cons_iff, less, same,
        inductionHypothesis second (fun each later => ascii each (List.mem_cons_of_mem _ later))
          fun each later => asciiToo each (List.mem_cons_of_mem _ later)]

end RecordMapper.Text
