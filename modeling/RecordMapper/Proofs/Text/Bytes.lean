/-
This file counts and cuts texts by their bytes. The bytes that a text begins with are a text of their
own only if they end between two characters, and those that are taken up by the beginning of a text
do. The first 128 characters travel as one byte each.
-/

import Mathlib.Data.Char

namespace RecordMapper

/-! ### Cutting off bytes -/

/-- How many bytes a text takes. -/
def byteLength : List Char → Nat
  | [] => 0
  | character :: rest => character.utf8Size + byteLength rest

/-- The first bytes of a text, if there are so many and no character is cut in two. -/
def firstBytes? : Nat → List Char → Option (List Char)
  | 0, _ => some []
  | _ + 1, [] => none
  | count + 1, character :: rest =>
    if character.utf8Size ≤ count + 1 then
      (firstBytes? (count + 1 - character.utf8Size) rest).map (character :: ·)
    else none

theorem byteLength_append (text more : List Char) :
    byteLength (text ++ more) = byteLength text + byteLength more := by
  induction text with
  | nil => exact (Nat.zero_add _).symm
  | cons character rest inductionHypothesis =>
    rw [List.cons_append, byteLength, byteLength, inductionHypothesis, Nat.add_assoc]

/-- The bytes of what a text begins with are whole characters. -/
theorem firstBytes?_append (text more : List Char) :
    firstBytes? (byteLength text) (text ++ more) = some text := by
  induction text with
  | nil => cases more <;> rfl
  | cons character rest inductionHypothesis =>
    have positive := character.utf8Size_pos
    have total : byteLength (character :: rest) = character.utf8Size + byteLength rest := rfl
    obtain ⟨count, counted⟩ := Nat.exists_eq_succ_of_ne_zero
      (show byteLength (character :: rest) ≠ 0 by omega)
    have remaining : count + 1 - character.utf8Size = byteLength rest := by omega
    rw [counted, List.cons_append, Nat.succ_eq_add_one, firstBytes?, if_pos (by omega), remaining,
      inductionHypothesis, Option.map_some]

theorem utf8ByteSize_ofList (text : List Char) :
    (String.ofList text).utf8ByteSize = byteLength text := by
  induction text with
  | nil => rfl
  | cons character rest inductionHypothesis =>
    rw [String.ofList_cons, String.utf8ByteSize_append, String.utf8ByteSize_singleton,
      inductionHypothesis, byteLength]

theorem byteLength_toList (text : String) : byteLength text.toList = text.utf8ByteSize := by
  rw [← utf8ByteSize_ofList, String.ofList_toList]

end RecordMapper

namespace RecordMapper.Text

/-! ### Bytes -/

/-- The bytes in which a text travels. -/
def utf8 (text : String) : List UInt8 :=
  text.toUTF8.data.toList

/-- The bytes of a text are those of its characters. -/
theorem utf8_eq_flatMap (text : String) : utf8 text = text.toList.flatMap String.utf8EncodeChar := by
  rw [utf8, String.toUTF8, ← String.utf8Encode_toList, List.utf8Encode, List.data_toByteArray]

theorem length_flatMap_utf8EncodeChar (text : List Char) :
    (text.flatMap String.utf8EncodeChar).length = byteLength text := by
  induction text with
  | nil => rfl
  | cons character rest inductionHypothesis =>
    rw [List.flatMap_cons, List.length_append, String.length_utf8EncodeChar, inductionHypothesis,
      byteLength]

/-- A text of the first 128 characters. -/
def IsAscii (text : List Char) : Prop :=
  ∀ character ∈ text, character.toNat < 128

instance (text : List Char) : Decidable (IsAscii text) :=
  decidable_of_iff ((text.all fun character => Nat.blt character.toNat 128) = true)
    (by simp [IsAscii])

theorem IsAscii.append {first second : List Char} (ascii : IsAscii first)
    (asciiToo : IsAscii second) : IsAscii (first ++ second) :=
  List.forall_mem_append.mpr ⟨ascii, asciiToo⟩

/-- Each of the first 128 characters travels as one byte. -/
theorem utf8EncodeChar_of_ascii {character : Char} (ascii : character.toNat < 128) :
    String.utf8EncodeChar character = [character.val.toUInt8] := by
  have single : character.utf8Size = 1 := by
    rw [Char.utf8Size_eq_one_iff, UInt32.le_iff_toNat_le]
    exact Nat.le_of_lt_succ ascii
  exact String.utf8EncodeChar_eq_singleton single

theorem utf8_of_isAscii {text : String} (ascii : IsAscii text.toList) :
    utf8 text = text.toList.map fun character => character.val.toUInt8 := by
  have encoded (characters : List Char) (ascii : IsAscii characters) :
      characters.flatMap String.utf8EncodeChar =
        characters.map fun character => character.val.toUInt8 := by
    induction characters with
    | nil => rfl
    | cons character rest inductionHypothesis =>
      rw [List.flatMap_cons, List.map_cons,
        utf8EncodeChar_of_ascii (ascii character List.mem_cons_self),
        inductionHypothesis fun each later => ascii each (List.mem_cons_of_mem _ later)]
      rfl
  rw [utf8_eq_flatMap, encoded _ ascii]

theorem toNat_toUInt8 {character : Char} (ascii : character.toNat < 128) :
    character.val.toUInt8.toNat = character.toNat :=
  (UInt32.toNat_toUInt8 character.val).trans (Nat.mod_eq_of_lt (Nat.lt_trans ascii (by decide)))

end RecordMapper.Text
