/-
This file proves that index names are cut off where their limit requires it, and that neither they
nor the nouns that are put in the plural are ever cut inside a character. What is kept of a name is
the longest opening that fits, so that at most three bytes of the room are wasted. It is also what is
found by looking at bytes: going back from the limit, the first position that lies between two
characters is where the opening ends, and the search gets there before it leaves the text. A noun
loses only a final y, which takes one byte, and the byte before it is that of a vowel only if it is
the whole of one.
-/

import RecordMapper.Naming.Strategy
import RecordMapper.Proofs.Text.Bytes
import Mathlib.Data.List.Infix

namespace RecordMapper.Naming

open RecordMapper.Text

/-! ### The longest opening -/

section

variable {room : Nat} {opening text : List Char}

theorem takeBytes_opens (room : Nat) (text : List Char) : takeBytes room text <+: text := by
  induction text generalizing room with
  | nil => exact List.nil_prefix
  | cons character rest inductionHypothesis =>
    rw [takeBytes]
    split
    · exact List.cons_prefix_cons.mpr ⟨rfl, inductionHypothesis _⟩
    · exact List.nil_prefix

theorem byteLength_takeBytes_le (room : Nat) (text : List Char) :
    byteLength (takeBytes room text) ≤ room := by
  induction text generalizing room with
  | nil => exact Nat.zero_le room
  | cons character rest inductionHypothesis =>
    rw [takeBytes]
    split
    · have later := inductionHypothesis (room - character.utf8Size)
      rw [byteLength]
      omega
    · exact Nat.zero_le room

/-- Every opening that fits is kept. -/
theorem prefix_takeBytes (opens : opening <+: text) (fits : byteLength opening ≤ room) :
    opening <+: takeBytes room text := by
  induction opening generalizing room text with
  | nil => exact List.nil_prefix
  | cons character opening inductionHypothesis =>
    obtain ⟨rest, rfl⟩ := opens
    rw [byteLength] at fits
    rw [List.cons_append, takeBytes, if_pos (by omega)]
    exact List.cons_prefix_cons.mpr
      ⟨rfl, inductionHypothesis (List.prefix_append _ _) (by omega)⟩

/-- A text that takes no more than so many bytes is not cut off. -/
theorem takeBytes_of_le (fits : byteLength text ≤ room) : takeBytes room text = text :=
  (takeBytes_opens room text).eq_of_length_le (prefix_takeBytes List.prefix_rfl fits).length_le

/-- Of a text that is cut off in its opening nothing else is kept. -/
theorem takeBytes_append (rest : List Char) (fills : room ≤ byteLength opening) :
    takeBytes room (opening ++ rest) = takeBytes room opening := by
  induction opening generalizing room with
  | nil =>
    rw [Nat.le_zero.mp fills, List.nil_append]
    cases rest with
    | nil => rfl
    | cons character rest => exact if_neg (Nat.not_le.mpr character.utf8Size_pos)
  | cons character opening inductionHypothesis =>
    rw [byteLength] at fills
    rw [List.cons_append, takeBytes, takeBytes, inductionHypothesis (by omega)]

/-- What is wasted of the room is less than the most that a character takes. -/
theorem lt_byteLength_takeBytes (exceeds : room < byteLength text) :
    room < byteLength (takeBytes room text) + 4 := by
  induction text generalizing room with
  | nil => exact absurd exceeds (Nat.not_lt_zero room)
  | cons character rest inductionHypothesis =>
    have most := character.utf8Size_le_four
    rw [byteLength] at exceeds
    rw [takeBytes]
    split
    · have within : room - character.utf8Size < byteLength rest := by omega
      have later := inductionHypothesis within
      rw [byteLength]
      omega
    · omega

end

/-- A text is the longest opening of another one that takes no more than so many bytes. -/
structure IsLongestWithin (limit : Nat) (whole opening : String) : Prop where
  opens : ∃ rest, whole = opening ++ rest
  fits : opening.utf8ByteSize ≤ limit
  longest : ∀ other rest, whole = other ++ rest → other.utf8ByteSize ≤ limit →
    other.utf8ByteSize ≤ opening.utf8ByteSize

theorem isLongestWithin_takeBytes (limit : Nat) (whole : String) :
    IsLongestWithin limit whole (String.ofList (takeBytes limit whole.toList)) := by
  refine ⟨?_, ?_, fun other rest equal fits => ?_⟩
  · obtain ⟨rest, equal⟩ := takeBytes_opens limit whole.toList
    exact ⟨String.ofList rest, by rw [← String.ofList_append, equal, String.ofList_toList]⟩
  · rw [utf8ByteSize_ofList]
    exact byteLength_takeBytes_le limit whole.toList
  · have opens : other.toList <+: whole.toList :=
      ⟨rest.toList, by rw [equal, String.toList_append]⟩
    rw [← byteLength_toList] at fits ⊢
    obtain ⟨more, equal⟩ := prefix_takeBytes opens fits
    rw [utf8ByteSize_ofList, ← equal, byteLength_append]
    exact Nat.le_add_right _ _

/-! ### Looking for the end among bytes -/

/-- The first position between two characters, going back from a given one; none if the search leaves
the text. -/
def boundaryBack? (text : String) : Nat → Option Nat
  | 0 => if String.Pos.Raw.IsValid text ⟨0⟩ then some 0 else none
  | position + 1 =>
    if String.Pos.Raw.IsValid text ⟨position + 1⟩ then some (position + 1)
    else boundaryBack? text position

/-- A text cut off at a limit, the end being looked for among its bytes; none if the search leaves
the text or a character would be cut in two. -/
def truncated? (limit : Nat) (text : String) : Option String :=
  if text.utf8ByteSize ≤ limit then some text
  else
    match boundaryBack? text limit with
    | none => none
    | some cut => (firstBytes? cut text.toList).map String.ofList

section

variable {text whole opening : String} {limit start cut : Nat}

/-- A position lies between two characters if the text can be divided there. -/
theorem isValid_iff_exists_append :
    String.Pos.Raw.IsValid text ⟨cut⟩ ↔
      ∃ opening rest : String, text = opening ++ rest ∧ cut = opening.utf8ByteSize := by
  rw [String.Pos.Raw.isValid_iff_exists_append]
  exact exists₂_congr fun opening rest => and_congr_right fun _ => String.Pos.Raw.ext_iff

/-- The search ends at a position between characters if there is none on the way. -/
theorem boundaryBack?_eq_some (reached : cut ≤ start) (valid : String.Pos.Raw.IsValid text ⟨cut⟩)
    (unmet : ∀ position, cut < position → position ≤ start →
      ¬ String.Pos.Raw.IsValid text ⟨position⟩) :
    boundaryBack? text start = some cut := by
  induction start with
  | zero =>
    obtain rfl := Nat.le_zero.mp reached
    exact if_pos valid
  | succ start inductionHypothesis =>
    rcases Nat.lt_or_eq_of_le reached with before | rfl
    · rw [boundaryBack?, if_neg (unmet _ before (Nat.le_refl _))]
      exact inductionHypothesis (Nat.le_of_lt_succ before)
        fun position behind within => unmet position behind (Nat.le_succ_of_le within)
    · exact if_pos valid

/-- The search ends where the longest opening does. -/
theorem IsLongestWithin.boundaryBack?_eq (longest : IsLongestWithin limit whole opening) :
    boundaryBack? whole limit = some opening.utf8ByteSize := by
  obtain ⟨rest, equal⟩ := longest.opens
  refine boundaryBack?_eq_some longest.fits (isValid_iff_exists_append.mpr ⟨opening, rest, equal, rfl⟩)
    fun position behind within valid => ?_
  obtain ⟨other, more, equalToo, rfl⟩ := isValid_iff_exists_append.mp valid
  exact absurd (longest.longest other more equalToo within) (Nat.not_le.mpr behind)

/-- Cutting a text off by its bytes never fails, and keeps the longest opening that fits. -/
theorem truncated?_eq_some (limit : Nat) (text : String) :
    truncated? limit text = some (String.ofList (takeBytes limit text.toList)) := by
  rw [truncated?]
  split
  · rename_i fits
    rw [takeBytes_of_le (by rwa [byteLength_toList]), String.ofList_toList]
  · obtain ⟨rest, equal⟩ := takeBytes_opens limit text.toList
    rw [(isLongestWithin_takeBytes limit text).boundaryBack?_eq, utf8ByteSize_ofList]
    show (firstBytes? _ text.toList).map String.ofList = _
    nth_rewrite 2 [← equal]
    rw [firstBytes?_append, Option.map_some]

end

/-! ### Plurals by bytes -/

/-- Whether a byte is that of a vowel before which a final y is kept. -/
def isVowelByte (byte : UInt8) : Bool :=
  [0x61, 0x65, 0x69, 0x6f, 0x75].contains byte

/-- Whether a word ends in a sound behind which an s is not heard. -/
def isSibilant (word : String) : Bool :=
  ["s", "x", "z", "ch", "sh"].any fun ending => ending.toList.isSuffixOf word.toList

/-- A word with the ending that its last letters ask for, a final y being kept. -/
def endedPlural (word : String) : String :=
  word ++ if isSibilant word then "es" else "s"

/-- The regular plural of a word, a final y being cut off by its byte if the byte before it is no
vowel's; none if there is no such byte or a character would be cut in two. -/
def slicedRegular? (word : String) : Option String :=
  let size := word.utf8ByteSize
  if word.toList.getLast? = some 'y' ∧ 1 < size then
    match (utf8 word)[size - 2]? with
    | none => none
    | some byte =>
      if isVowelByte byte then some (endedPlural word)
      else (firstBytes? (size - 1) word.toList).map fun front => String.ofList front ++ "ies"
  else some (endedPlural word)

/-- The plural of a noun whose bytes are looked at. -/
def slicedPlural? (word : String) : Option String :=
  if word.isEmpty || uncountable.contains word then some word
  else
    match irregular.lookup word with
    | some plural => some plural
    | none => slicedRegular? word

theorem isVowelByte_iff {byte : UInt8} : isVowelByte byte = true ↔
    byte.toNat = 97 ∨ byte.toNat = 101 ∨ byte.toNat = 105 ∨ byte.toNat = 111 ∨
      byte.toNat = 117 := by
  simp [isVowelByte, ← UInt8.toNat_inj]

theorem isVowel_iff {character : Char} : isVowel character = true ↔
    character.toNat = 97 ∨ character.toNat = 101 ∨ character.toNat = 105 ∨
      character.toNat = 111 ∨ character.toNat = 117 := by
  simp [isVowel, ← Char.toNat_inj]

/-- The byte of a vowel begins a character. -/
theorem isUTF8FirstByte_of_isVowelByte {byte : UInt8} (vowel : isVowelByte byte = true) :
    byte.IsUTF8FirstByte := by
  have listed : byte = 0x61 ∨ byte = 0x65 ∨ byte = 0x69 ∨ byte = 0x6f ∨ byte = 0x75 := by
    simpa [isVowelByte] using vowel
  rcases listed with rfl | rfl | rfl | rfl | rfl <;> decide

/-- The last byte of a character is that of a vowel exactly if the character is the vowel. Behind the
first 128 characters there are no vowels, and the last byte is not the first one. -/
theorem isVowelByte_utf8EncodeChar {character : Char} {byte : UInt8}
    (last : (String.utf8EncodeChar character)[character.utf8Size - 1]? = some byte) :
    isVowelByte byte = isVowel character := by
  rw [Bool.eq_iff_iff]
  by_cases ascii : character.toNat < 128
  · have single : character.utf8Size = 1 := by
      rw [← String.length_utf8EncodeChar, utf8EncodeChar_of_ascii ascii]
      rfl
    rw [single, utf8EncodeChar_of_ascii ascii] at last
    obtain rfl := Option.some.inj last
    rw [isVowelByte_iff, isVowel_iff, toNat_toUInt8 ascii]
  · have wide : character.utf8Size ≠ 1 := by
      rw [Ne, Char.utf8Size_eq_one_iff, UInt32.le_iff_toNat_le]
      exact fun most => ascii (Nat.lt_succ_of_le most)
    have positive := character.utf8Size_pos
    obtain ⟨-, rfl⟩ := List.getElem?_eq_some_iff.mp last
    constructor
    · intro vowel
      have begins := UInt8.isUTF8FirstByte_getElem_utf8EncodeChar.mp
        (isUTF8FirstByte_of_isVowelByte vowel)
      omega
    · rw [isVowel_iff]
      omega

section

variable {word : String} {reversed : List Char} (turned : word.toList = reversed.reverse)

include turned

theorem isSibilant_iff : isSibilant word = true ↔
    (∃ rest, reversed = 's' :: rest) ∨ (∃ rest, reversed = 'x' :: rest) ∨
      (∃ rest, reversed = 'z' :: rest) ∨ (∃ rest, reversed = 'h' :: 'c' :: rest) ∨
        ∃ rest, reversed = 'h' :: 's' :: rest := by
  have ends (ending : String) : ending.toList.isSuffixOf word.toList = true ↔
      ∃ rest, reversed = ending.toList.reverse ++ rest := by
    rw [List.isSuffixOf_iff_suffix, ← List.reverse_prefix, turned, List.reverse_reverse]
    exact exists_congr fun rest => eq_comm
  simp only [isSibilant, List.any_cons, List.any_nil, Bool.or_false, Bool.or_eq_true, ends]
  rfl

/-- A word that keeps its last letters is put in the plural by the ending that they ask for. -/
theorem regularPlural_of_kept
    (kept : ∀ before rest, reversed = 'y' :: before :: rest → isVowel before = true) :
    regularPlural reversed = (endedPlural word).toList := by
  have sibilant := isSibilant_iff turned
  rw [endedPlural, String.toList_append, turned]
  unfold regularPlural
  split
  · rename_i before rest
    rw [if_pos (kept before rest rfl), if_neg (by simp [sibilant])]
    exact List.reverse_cons
  iterate 5
    rw [if_pos (by simp [sibilant])]
    simp
  · rename_i noS noX noZ noCh noSh
    have clear : ¬ isSibilant word = true := by
      rw [sibilant]
      rintro (⟨rest, same⟩ | ⟨rest, same⟩ | ⟨rest, same⟩ | ⟨rest, same⟩ | ⟨rest, same⟩)
      exacts [noS rest same, noX rest same, noZ rest same, noCh rest same, noSh rest same]
    rw [if_neg clear]
    exact List.reverse_cons

end

section

variable {word : String} {front : List Char} {before : Char}
  (spelled : word.toList = front ++ [before] ++ ['y'])

include spelled

theorem utf8ByteSize_of_y :
    word.utf8ByteSize = byteLength (front ++ [before]) + 1 ∧
      byteLength (front ++ [before]) = byteLength front + before.utf8Size := by
  constructor
  · rw [← byteLength_toList, spelled, byteLength_append]
    rfl
  · exact byteLength_append front [before]

/-- The byte before a final y is the last one of a character. -/
theorem getElem?_utf8_of_y : (utf8 word)[word.utf8ByteSize - 2]? =
    (String.utf8EncodeChar before)[before.utf8Size - 1]? := by
  obtain ⟨whole, size⟩ := utf8ByteSize_of_y spelled
  have positive := before.utf8Size_pos
  have position : word.utf8ByteSize - 2 = byteLength front + (before.utf8Size - 1) := by omega
  have length := length_flatMap_utf8EncodeChar front
  rw [position, utf8_eq_flatMap, spelled, List.append_assoc, List.flatMap_append,
    List.singleton_append, List.flatMap_cons, List.getElem?_append_right (by omega), length,
    Nat.add_sub_cancel_left,
    List.getElem?_append_left (by rw [String.length_utf8EncodeChar]; omega)]

/-- Of a word in y the front is cut off between two characters. -/
theorem slicedRegular?_of_y : slicedRegular? word =
    some (if isVowel before then endedPlural word
      else String.ofList (front ++ [before]) ++ "ies") := by
  obtain ⟨whole, size⟩ := utf8ByteSize_of_y spelled
  have positive := before.utf8Size_pos
  have ends : word.toList.getLast? = some 'y' ∧ 1 < word.utf8ByteSize :=
    ⟨by rw [spelled, List.getLast?_concat], by omega⟩
  obtain ⟨byte, last⟩ : ∃ byte, (String.utf8EncodeChar before)[before.utf8Size - 1]? = some byte :=
    ⟨_, List.getElem?_eq_getElem (by rw [String.length_utf8EncodeChar]; omega)⟩
  have sliced : firstBytes? (word.utf8ByteSize - 1) word.toList = some (front ++ [before]) := by
    rw [whole, Nat.add_sub_cancel, spelled, firstBytes?_append]
  simp only [slicedRegular?, if_pos ends, getElem?_utf8_of_y spelled, last,
    isVowelByte_utf8EncodeChar last, sliced, Option.map_some]
  split <;> rfl

end

/-- A word that is not in y behind another letter is not cut at all. -/
theorem slicedRegular?_of_kept {word : String} {reversed : List Char}
    (turned : word.toList = reversed.reverse)
    (noY : ∀ before rest, reversed ≠ 'y' :: before :: rest) :
    slicedRegular? word = some (endedPlural word) := by
  refine if_neg fun ⟨last, size⟩ => ?_
  rw [turned, List.getLast?_reverse] at last
  obtain ⟨rest, rfl⟩ := List.head?_eq_some_iff.mp last
  cases rest with
  | nil =>
    rw [← byteLength_toList, turned] at size
    exact absurd size (by decide)
  | cons before rest => exact noY before rest rfl

/-- Looking at the bytes of a word never fails, and puts it in its regular plural. -/
theorem slicedRegular?_eq_some {word : String} {reversed : List Char}
    (turned : word.toList = reversed.reverse) :
    slicedRegular? word = some (String.ofList (regularPlural reversed)) := by
  by_cases ends : ∃ before rest, reversed = 'y' :: before :: rest
  · obtain ⟨before, rest, rfl⟩ := ends
    have spelled : word.toList = rest.reverse ++ [before] ++ ['y'] := by
      rw [turned, List.reverse_cons, List.reverse_cons]
    rw [slicedRegular?_of_y spelled]
    cases vowel : isVowel before with
    | true =>
      rw [regularPlural_of_kept turned (by simp [vowel]), String.ofList_toList]
      rfl
    | false =>
      have replaced : regularPlural ('y' :: before :: rest) =
          rest.reverse ++ [before] ++ "ies".toList := by
        rw [regularPlural, vowel]
        simp
      have joined : String.ofList (rest.reverse ++ [before] ++ "ies".toList) =
          String.ofList (rest.reverse ++ [before]) ++ "ies" := by
        rw [String.ofList_append, String.ofList_toList]
      rw [replaced, joined]
      rfl
  · have noY (before : Char) (rest : List Char) : reversed ≠ 'y' :: before :: rest :=
      fun same => ends ⟨before, rest, same⟩
    rw [slicedRegular?_of_kept turned noY,
      regularPlural_of_kept turned fun before rest same => absurd same (noY before rest),
      String.ofList_toList]

/-- Looking at the bytes of a noun never fails, and puts it in the plural. -/
theorem slicedPlural?_eq_some (word : String) : slicedPlural? word = some (pluralize word) := by
  unfold slicedPlural? pluralize
  rw [slicedRegular?_eq_some (List.reverse_reverse _).symm]
  split
  · rfl
  · cases irregular.lookup word <;> rfl

/-! ### Names that are cut -/

section

variable {lead table column : String}

/-- What an index name says before the column. -/
def indexOpening (lead table : String) : String :=
  lead ++ "_" ++ table ++ "_"

/-- A name that has the room that it takes is kept whole. -/
theorem indexName_of_fits
    (fits : (indexOpening lead table ++ column).utf8ByteSize ≤ indexNameLimit) :
    indexName lead table column = indexOpening lead table ++ column := by
  unfold indexName
  rw [takeBytes_of_le (by rwa [byteLength_toList]), String.ofList_toList]
  rfl

/-- Over a table that fills the room for a name alone, all columns have one name. -/
theorem indexName_of_fills (fills : indexNameLimit ≤ (indexOpening lead table).utf8ByteSize) :
    indexName lead table column =
      String.ofList (takeBytes indexNameLimit (indexOpening lead table).toList) := by
  unfold indexName
  rw [String.toList_append, takeBytes_append _ (by rwa [byteLength_toList])]
  rfl

end

/-- An index name is the longest opening of its kind, its table and its column that takes no more
than 63 bytes: all of that if it fits, and no less than 60 bytes if it does not. The search for its
end among the bytes comes to an end within the text, and there the name ends. Putting a noun in the
plural never cuts a character in two either. -/
theorem indexName_isLongest (lead table column word : String) :
    IsLongestWithin 63 (lead ++ "_" ++ table ++ "_" ++ column) (indexName lead table column) ∧
    ((lead ++ "_" ++ table ++ "_" ++ column).utf8ByteSize ≤ 63 →
      indexName lead table column = lead ++ "_" ++ table ++ "_" ++ column) ∧
    (63 < (lead ++ "_" ++ table ++ "_" ++ column).utf8ByteSize →
      60 ≤ (indexName lead table column).utf8ByteSize ∧
      boundaryBack? (lead ++ "_" ++ table ++ "_" ++ column) 63 =
        some (indexName lead table column).utf8ByteSize) ∧
    truncated? 63 (lead ++ "_" ++ table ++ "_" ++ column) = some (indexName lead table column) ∧
    slicedPlural? word = some (pluralize word) := by
  have longest := isLongestWithin_takeBytes 63 (lead ++ "_" ++ table ++ "_" ++ column)
  refine ⟨longest, indexName_of_fits, fun exceeds => ⟨?_, longest.boundaryBack?_eq⟩,
    truncated?_eq_some 63 _, slicedPlural?_eq_some word⟩
  have wasted : 63 < (indexName lead table column).utf8ByteSize + 4 := by
    rw [indexName, utf8ByteSize_ofList]
    exact lt_byteLength_takeBytes (by rwa [byteLength_toList])
  omega

/-- A name is cut off before a letter of two bytes of which one has room. -/
example : indexName "idx" "quarterly_settlements_of_all_regional_storage_companies" "größe" =
    "idx_quarterly_settlements_of_all_regional_storage_companies_gr" := by
  decide +kernel

end RecordMapper.Naming
