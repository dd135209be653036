/-
This file proves that numbers survive being written and read. A run of digits is read as the number
that the digits stand for, zeros in front of it count for nothing, and a number that is padded to a
width has exactly that width if it has room in it; a sign in front is read as one. Bytes in base
sixteen come back as well. A text that begins and ends with no blank is left alone by trimming.
-/

import RecordMapper.Text.Hexadecimal
import RecordMapper.Text.Numeral

namespace RecordMapper.Text

/-! ### Decimal digits -/

/-- A text that consists of decimal digits. -/
def IsDigits (text : List Char) : Prop :=
  ∀ character ∈ text, character.isDigit = true

theorem isDigits_append {first second : List Char} :
    IsDigits (first ++ second) ↔ IsDigits first ∧ IsDigits second :=
  List.forall_mem_append

theorem isDigits_toDigits (value : Nat) : IsDigits (Nat.toDigits 10 value) :=
  fun _ member => Nat.isDigit_of_mem_toDigits (by decide) (by decide) member

/-- A run of digits is read as the number that the digits stand for. -/
theorem readDigits_of_isDigits {digits : List Char} (areDigits : IsDigits digits) (start : Nat) :
    readDigits start digits = some (Nat.ofDigitChars 10 digits start) := by
  induction digits generalizing start with
  | nil => rfl
  | cons digit rest inductionHypothesis =>
    rw [readDigits, digitValue?, if_pos (areDigits digit List.mem_cons_self),
      Nat.ofDigitChars_cons]
    exact inductionHypothesis (fun each later => areDigits each (List.mem_cons_of_mem _ later)) _

/-- Zeros in front of a run of digits count for nothing. -/
theorem ofDigitChars_replicate (count : Nat) (digits : List Char) :
    Nat.ofDigitChars 10 (List.replicate count '0' ++ digits) 0 = Nat.ofDigitChars 10 digits 0 := by
  induction count with
  | zero => rfl
  | succ count inductionHypothesis =>
    rw [List.replicate_succ, List.cons_append, Nat.ofDigitChars_cons]
    exact inductionHypothesis

/-! ### Padded numbers -/

section

variable (width value : Nat)

theorem toList_paddedText : (paddedText width value).toList =
    List.replicate (width - (Nat.toDigits 10 value).length) '0' ++ Nat.toDigits 10 value :=
  String.toList_ofList

theorem isDigits_paddedText : IsDigits (paddedText width value).toList := by
  rw [toList_paddedText, isDigits_append]
  constructor
  · intro character member
    rw [List.eq_of_mem_replicate member]
    rfl
  · exact isDigits_toDigits value

theorem paddedText_ne_nil : (paddedText width value).toList ≠ [] := by
  rw [toList_paddedText]
  exact List.append_ne_nil_of_right_ne_nil _ Nat.toDigits_ne_nil

/-- A padded number is read as the number. -/
theorem readDigits_paddedText : readDigits 0 (paddedText width value).toList = some value := by
  rw [readDigits_of_isDigits (isDigits_paddedText width value), toList_paddedText,
    ofDigitChars_replicate, Nat.ofDigitChars_ten_toDigits]

variable {width value}

/-- A number that has room in a width is padded to just that width. -/
theorem length_paddedText (room : value < Nat.pow 10 width) (positive : 0 < width) :
    (paddedText width value).toList.length = width := by
  have fits := (Nat.length_toDigits_le_iff (by omega : 1 < 10) positive).mpr room
  rw [toList_paddedText, List.length_append, List.length_replicate]
  omega

theorem length_paddedText_ge : width ≤ (paddedText width value).toList.length := by
  rw [toList_paddedText, List.length_append, List.length_replicate]
  omega

end

/-! ### Blanks -/

/-- The code points of decimal digits are those from 48 to 57. -/
theorem toNat_of_isDigit {character : Char} (isDigit : character.isDigit = true) :
    48 ≤ character.toNat ∧ character.toNat ≤ 57 := by
  simpa [Char.isDigit, UInt32.le_iff_toNat_le] using isDigit

theorem isBlank_of_isDigit {character : Char} (isDigit : character.isDigit = true) :
    isBlank character = false := by
  have range := toNat_of_isDigit isDigit
  unfold isBlank
  simp
  omega

/-- A text without a blank in front stays as it is when leading blanks are cut off. -/
theorem trimStart_of_head {text : List Char}
    (head : ∀ character ∈ text.head?, isBlank character = false) : trimStart text = text := by
  cases text with
  | nil => rfl
  | cons first rest => exact List.dropWhile_cons_of_neg (by simp [head first rfl])

/-- A text without a blank at either end stays as it is when it is trimmed. -/
theorem trim_of_ends {text : List Char}
    (head : ∀ character ∈ text.head?, isBlank character = false)
    (last : ∀ character ∈ text.getLast?, isBlank character = false) : trim text = text := by
  have reversed : trimStart text.reverse = text.reverse :=
    trimStart_of_head fun character member => last character (by simpa using member)
  unfold trim trimEnd
  rw [trimStart_of_head head]
  unfold trimStart at reversed
  rw [reversed, List.reverse_reverse]

/-- A text that is not empty and has no blanks. -/
def IsSolid (text : List Char) : Prop :=
  text ≠ [] ∧ ∀ character ∈ text, isBlank character = false

instance (text : List Char) : Decidable (IsSolid text) :=
  decidable_of_iff ((!text.isEmpty && text.all fun character => !isBlank character) = true)
    (by simp [IsSolid])

theorem IsSolid.append {first second : List Char} (solidFirst : IsSolid first)
    (solidSecond : IsSolid second) : IsSolid (first ++ second) :=
  ⟨List.append_ne_nil_of_left_ne_nil solidFirst.1 second,
    List.forall_mem_append.mpr ⟨solidFirst.2, solidSecond.2⟩⟩

theorem isSolid_paddedText (width value : Nat) : IsSolid (paddedText width value).toList :=
  ⟨paddedText_ne_nil width value, fun character member =>
    isBlank_of_isDigit (isDigits_paddedText width value character member)⟩

/-- A solid text at the front keeps a text from being cut there. -/
theorem trimStart_of_solid {first : List Char} (solid : IsSolid first) (rest : List Char) :
    trimStart (first ++ rest) = first ++ rest := by
  refine trimStart_of_head fun character member => ?_
  rw [List.head?_append, List.head?_eq_some_head solid.1, Option.some_or,
    Option.mem_some_iff] at member
  exact solid.2 character (member ▸ List.head_mem solid.1)

theorem trim_of_isSolid {text : List Char} (solid : IsSolid text) : trim text = text :=
  trim_of_ends (fun character member => solid.2 character (List.mem_of_mem_head? member))
    (fun character member => solid.2 character (List.mem_of_mem_getLast? member))

/-- Whatever stands in the middle of a text, trimming leaves it alone if its ends are solid. -/
theorem trim_of_solid {first last : List Char} (middle : List Char) (solidFirst : IsSolid first)
    (solidLast : IsSolid last) : trim (first ++ middle ++ last) = first ++ middle ++ last := by
  refine trim_of_ends (fun character member => ?_) (fun character member => ?_)
  · rw [List.append_assoc, List.head?_append, List.head?_eq_some_head solidFirst.1,
      Option.some_or, Option.mem_some_iff] at member
    exact solidFirst.2 character (member ▸ List.head_mem solidFirst.1)
  · rw [List.getLast?_append, List.getLast?_eq_some_getLast solidLast.1, Option.some_or,
      Option.mem_some_iff] at member
    exact solidLast.2 character (member ▸ List.getLast_mem solidLast.1)

/-! ### Numerals -/

theorem toList_naturalText (value : Nat) : (naturalText value).toList = Nat.toDigits 10 value :=
  String.toList_ofList

/-- A number is read from its digits. -/
theorem natural?_naturalText (value : Nat) : natural? (naturalText value).toList = some value := by
  have present : (Nat.toDigits 10 value).isEmpty = false :=
    List.isEmpty_eq_false_iff.mpr Nat.toDigits_ne_nil
  rw [toList_naturalText, natural?, present, if_neg Bool.false_ne_true,
    readDigits_of_isDigits (isDigits_toDigits value), Nat.ofDigitChars_ten_toDigits]

/-- A run of digits has no sign to be read before it. -/
theorem integer?_of_isDigits {digits : List Char} {value : Nat} (areDigits : IsDigits digits)
    (read : natural? digits = some value) : integer? digits = some (value : Int) := by
  have unsigned {first : Char} {rest : List Char} (same : digits = first :: rest) :
      first ≠ '-' ∧ first ≠ '+' := by
    have isDigit := areDigits first (same ▸ List.mem_cons_self)
    constructor <;> rintro rfl <;> cases isDigit
  unfold integer? unsigned?
  split
  · exact absurd rfl (unsigned rfl).1
  · split
    · exact absurd rfl (unsigned rfl).2
    · rw [read]
      rfl

/-- A number is read from its digits and its sign. -/
theorem integer?_integerText (value : Int) : integer? (integerText value).toList = some value := by
  have read := natural?_naturalText value.natAbs
  unfold integerText
  split
  · have sign : "-".toList = ['-'] := by decide
    rw [String.toList_append, sign, List.singleton_append, integer?, read]
    show some (-(value.natAbs : Int)) = some value
    congr 1
    omega
  · have areDigits : IsDigits (naturalText value.natAbs).toList := by
      rw [toList_naturalText]
      exact isDigits_toDigits _
    rw [integer?_of_isDigits areDigits read]
    congr 1
    omega

theorem isSolid_naturalText (value : Nat) : IsSolid (naturalText value).toList := by
  rw [toList_naturalText]
  exact ⟨Nat.toDigits_ne_nil, fun character member =>
    isBlank_of_isDigit (isDigits_toDigits value character member)⟩

theorem isSolid_integerText (value : Int) : IsSolid (integerText value).toList := by
  have sign : IsSolid "-".toList := by decide
  unfold integerText
  split
  · rw [String.toList_append]
    exact sign.append (isSolid_naturalText _)
  · exact isSolid_naturalText _

/-! ### Hexadecimal digits -/

theorem hexValue?_hexDigit {value : Nat} (bounded : value < 16) :
    hexValue? (hexDigit value) = some value := by
  revert value
  decide

/-- Bytes in base sixteen are read as the bytes. -/
theorem bytesOfHex?_hexBytes (bytes : List UInt8) : bytesOfHex? (hexBytes bytes) = some bytes := by
  induction bytes with
  | nil => rfl
  | cons byte rest inductionHypothesis =>
    have bounded := byte.toNat_lt
    have split : hexBytes (byte :: rest) = hexDigit (byte.toNat / 16) ::
        hexDigit (byte.toNat % 16) :: hexBytes rest := rfl
    rw [split, bytesOfHex?, hexValue?_hexDigit (by omega), hexValue?_hexDigit (by omega),
      inductionHypothesis]
    simp only [Nat.div_add_mod, UInt8.ofNat_toNat]

theorem length_hexBytes (bytes : List UInt8) : (hexBytes bytes).length = 2 * bytes.length := by
  induction bytes with
  | nil => rfl
  | cons byte rest inductionHypothesis =>
    simp only [hexBytes, List.flatMap_cons, List.length_append, List.length_cons] at *
    simp [hexByte, inductionHypothesis]
    omega

end RecordMapper.Text
