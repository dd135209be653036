/-
This file proves that identifiers survive being written and read. The written form is five groups
of hexadecimal digits with hyphens between them: it is in no frame, it is no run of digits alone,
and without its hyphens it is the digits of the sixteen bytes.
-/

import RecordMapper.Proofs.Text.Digits
import RecordMapper.Uuid

namespace RecordMapper.Uuid

open RecordMapper.Text

/-! ### Groups of digits -/

/-- The digits of some of an identifier's bytes. -/
def group (uuid : Uuid) (first count : Nat) : List Char :=
  hexBytes ((uuid.bytes.drop first).take count)

section

variable (uuid : Uuid)

theorem toList_text : uuid.text.toList =
    uuid.group 0 4 ++ '-' :: (uuid.group 4 2 ++ '-' :: (uuid.group 6 2 ++ '-' ::
      (uuid.group 8 2 ++ '-' :: uuid.group 10 6))) := by
  simp [text, group, List.intercalate]

theorem length_group (first count : Nat) (inside : first + count ≤ 16) :
    (uuid.group first count).length = 2 * count := by
  have complete := uuid.isComplete
  rw [group, length_hexBytes, List.length_take, List.length_drop]
  omega

/-- The groups one after the other are the digits of all bytes. -/
theorem append_groups : uuid.group 0 4 ++ (uuid.group 4 2 ++ (uuid.group 6 2 ++
    (uuid.group 8 2 ++ uuid.group 10 6))) = hexBytes uuid.bytes := by
  have further (first count : Nat) :
      uuid.group first count ++ hexBytes (uuid.bytes.drop (first + count)) =
        hexBytes (uuid.bytes.drop first) := by
    rw [group, hexBytes, hexBytes, ← List.flatMap_append, ← List.drop_drop,
      List.take_append_drop]
    rfl
  have last : hexBytes (uuid.bytes.drop (10 + 6)) = [] := by
    rw [List.drop_of_length_le (Nat.le_of_eq uuid.isComplete)]
    rfl
  have closing : uuid.group 10 6 = hexBytes (uuid.bytes.drop 10) := by
    rw [← further 10 6, last, List.append_nil]
  rw [closing, further 8 2, further 6 2, further 4 2, further 0 4, List.drop_zero]

end

/-- What is written for bytes consists of hexadecimal digits. -/
theorem exists_hexDigit_of_mem {bytes : List UInt8} {character : Char}
    (member : character ∈ hexBytes bytes) : ∃ value < 16, character = hexDigit value := by
  obtain ⟨byte, -, written⟩ := List.mem_flatMap.mp member
  have bounded := byte.toNat_lt
  simp only [hexByte, List.mem_cons, List.not_mem_nil, or_false] at written
  rcases written with rfl | rfl
  · exact ⟨_, by omega, rfl⟩
  · exact ⟨_, by omega, rfl⟩

/-- No hexadecimal digit is a hyphen, an opening brace or a form of the letter U. -/
theorem hexDigit_ne {value : Nat} (bounded : value < 16) :
    hexDigit value ≠ '-' ∧ hexDigit value ≠ '\x7b' ∧ (hexDigit value).toLower ≠ 'u' := by
  revert value
  decide

theorem filter_hexBytes (bytes : List UInt8) :
    (hexBytes bytes).filter (· != '-') = hexBytes bytes := by
  refine List.filter_eq_self.mpr fun character member => ?_
  obtain ⟨value, bounded, rfl⟩ := exists_hexDigit_of_mem member
  simpa using (hexDigit_ne bounded).1

/-! ### Reading -/

/-- A text with a hyphen is no run of digits alone. -/
theorem bytesOfHex?_eq_none {text : List Char} (member : '-' ∈ text) : bytesOfHex? text = none := by
  have noDigit : hexValue? '-' = none := by decide
  fun_induction bytesOfHex? text with
  | case1 => cases member
  | case2 high low rest highValue lowValue bytes found lowRead highRead inductionHypothesis =>
    rcases List.mem_cons.mp member with rfl | later
    · cases noDigit.symm.trans highRead
    rcases List.mem_cons.mp later with rfl | later
    · cases noDigit.symm.trans lowRead
    cases (inductionHypothesis later).symm.trans found
  | case3 => rfl
  | case4 => rfl

/-- What is written for an identifier begins with a hexadecimal digit. -/
theorem head?_text (uuid : Uuid) :
    ∃ value < 16, uuid.text.toList.head? = some (hexDigit value) := by
  have length := uuid.length_group 0 4 (by omega)
  cases opening : uuid.group 0 4 with
  | nil =>
    rw [opening] at length
    cases length
  | cons first rest =>
    have member : first ∈ uuid.group 0 4 := opening ▸ List.mem_cons_self
    obtain ⟨value, bounded, rfl⟩ := exists_hexDigit_of_mem member
    exact ⟨value, bounded, by rw [toList_text, opening, List.cons_append, List.head?_cons]⟩

/-- What is written for an identifier is in no frame. -/
theorem isFramed_text (uuid : Uuid) : (Frame.of uuid.text.toList).isFramed = false := by
  obtain ⟨value, bounded, head⟩ := uuid.head?_text
  obtain ⟨-, noBrace, noLetter⟩ := hexDigit_ne bounded
  have opening : "urn:uuid:".toList.head? = some 'u' := by decide
  have noBraces : ¬(uuid.text.toList.head? = some '\x7b' ∧
      uuid.text.toList.getLast? = some '\x7d' ∧ 1 < uuid.text.toList.length) := by
    rw [head]
    exact fun braces => noBrace (Option.some.inj braces.1)
  have noOpening : asciiLower (uuid.text.toList.take 9) ≠ "urn:uuid:".toList := by
    intro same
    rw [← same, asciiLower, List.head?_map, List.head?_take, if_neg (by omega), head,
      Option.map_some] at opening
    exact noLetter (Option.some.inj opening)
  unfold Frame.of
  rw [if_neg noBraces, if_neg noOpening]

/-- What is written for an identifier has its hyphens at their places. -/
theorem hyphens_text (uuid : Uuid) :
    (hyphenPlaces.all fun place => uuid.text.toList[place]? == some '-') = true := by
  have first := uuid.length_group 0 4 (by omega)
  have second := uuid.length_group 4 2 (by omega)
  have third := uuid.length_group 6 2 (by omega)
  have fourth := uuid.length_group 8 2 (by omega)
  rw [toList_text]
  simp [hyphenPlaces, List.getElem?_append, first, second, third, fourth]

/-- An identifier is read from its text. -/
theorem read_text (uuid : Uuid) : read uuid.text.toList = .ok uuid := by
  have plain : ofPlain? uuid.text.toList = none := by
    rw [ofPlain?, bytesOfHex?_eq_none (by rw [toList_text]; simp), Option.bind_none]
  have grouped : ofGrouped? uuid.text.toList = some uuid := by
    have length : uuid.text.toList.length = 36 := by
      rw [toList_text]
      simp [length_group]
    have digits : uuid.text.toList.filter (· != '-') = hexBytes uuid.bytes := by
      rw [toList_text, ← append_groups]
      simp [group, filter_hexBytes]
    rw [ofGrouped?, if_pos uuid.hyphens_text, if_pos length, digits, ofPlain?,
      bytesOfHex?_hexBytes]
    exact dif_pos uuid.isComplete
  simp only [read, uuid.isFramed_text, plain, grouped, Bool.false_eq_true, if_false,
    Option.orElse_none]

end RecordMapper.Uuid
