/-
This file says what writing letters in lower case leaves as it is. Only the capitals `A` to `Z`
change, each to another letter that takes a single byte. So blanks stay where they are and nothing
else becomes one, a text takes as many bytes as before, and it can be taken apart before or after
its letters are changed.
-/

import RecordMapper.Proofs.Text.Words

namespace RecordMapper.Text

/-! ### Characters -/

/-- Lower case moves the capitals by 32 places and leaves all else alone. -/
theorem toLower_cases (character : Char) : character.toLower = character ∨
    (65 ≤ character.toNat ∧ character.toNat ≤ 90 ∧
      character.toLower.toNat = character.toNat + 32) := by
  by_cases capital : character.val ≥ 'A'.val ∧ character.val ≤ 'Z'.val
  · have least : 65 ≤ character.toNat := UInt32.le_iff_toNat_le.mp capital.1
    have most : character.toNat ≤ 90 := UInt32.le_iff_toNat_le.mp capital.2
    have moved : character.toLower.toNat = (character.val + 32).toNat :=
      congrArg Char.toNat (dif_pos capital)
    refine .inr ⟨least, most, ?_⟩
    rw [moved, UInt32.toNat_add]
    exact Nat.mod_eq_of_lt (show character.toNat + 32 < _ by omega)
  · exact .inl (dif_neg capital)

/-- A character takes as many bytes in lower case as it takes itself. -/
theorem utf8Size_toLower (character : Char) : character.toLower.utf8Size = character.utf8Size := by
  obtain same | ⟨-, most, moved⟩ := toLower_cases character
  · rw [same]
  · have single : ∀ other : Char, other.toNat ≤ 127 → other.utf8Size = 1 := fun other ascii =>
      Char.utf8Size_eq_one_iff.mpr (UInt32.le_iff_toNat_le.mpr ascii)
    rw [single _ (by omega), single _ (by omega)]

/-- A character is a blank in lower case only if it is one itself. -/
theorem isBlank_toLower (character : Char) : isBlank character.toLower = isBlank character := by
  obtain same | ⟨least, most, moved⟩ := toLower_cases character
  · rw [same]
  · have noBlank : ∀ other : Char, 65 ≤ other.toNat ∧ other.toNat ≤ 122 →
        isBlank other = false := by
      intro other range
      unfold isBlank
      simp
      omega
    rw [noBlank _ (by omega), noBlank _ (by omega)]

/-! ### Texts -/

/-- A text that has no blanks in lower case has none itself. -/
theorem isSolid_of_asciiLower {text : List Char} (solid : IsSolid (asciiLower text)) :
    IsSolid text := by
  obtain ⟨nonempty, noBlanks⟩ := solid
  refine ⟨fun empty => nonempty (List.map_eq_nil_iff.mpr empty), fun character member => ?_⟩
  rw [← isBlank_toLower]
  exact noBlanks _ (List.mem_map_of_mem member)

theorem asciiLower_append (text more : List Char) :
    asciiLower (text ++ more) = asciiLower text ++ asciiLower more :=
  List.map_append

theorem AreBlanks.asciiLower {text : List Char} (areBlanks : AreBlanks text) :
    AreBlanks (asciiLower text) :=
  List.forall_mem_map.mpr fun character member => by
    rw [isBlank_toLower]
    exact areBlanks character member

/-- Trimming does not mind the case of letters. -/
theorem trim_asciiLower (text : List Char) : trim (asciiLower text) = asciiLower (trim text) := by
  have sameBlanks : isBlank ∘ Char.toLower = isBlank := funext isBlank_toLower
  have cut (each : List Char) :
      (each.map Char.toLower).dropWhile isBlank = (each.dropWhile isBlank).map Char.toLower := by
    rw [List.dropWhile_map, sameBlanks]
  simp only [trim, trimEnd, trimStart, asciiLower, cut, ← List.map_reverse]

end RecordMapper.Text
