/-
This file proves what trimming makes of a text that is put together from known parts. Blanks around
a text do not matter once it is trimmed. A character that is no blank keeps what stands on its far
side from being cut off. Whatever a text is, it consists of what is left of it and of blanks around
that.
-/

import RecordMapper.Proofs.Text.Digits

namespace RecordMapper.Text

/-! ### Blanks -/

/-- A text that consists of blanks, of which there may be none. -/
def AreBlanks (text : List Char) : Prop :=
  ∀ character ∈ text, isBlank character = true

instance : DecidablePred AreBlanks := fun text =>
  List.decidableBAll (isBlank · = true) text

theorem areBlanks_nil : AreBlanks [] :=
  fun _ member => absurd member List.not_mem_nil

theorem AreBlanks.cons {character : Char} {text : List Char} (blank : isBlank character = true)
    (areBlanks : AreBlanks text) : AreBlanks (character :: text) :=
  List.forall_mem_cons.mpr ⟨blank, areBlanks⟩

theorem AreBlanks.append {first second : List Char} (areBlanks : AreBlanks first)
    (areBlanksToo : AreBlanks second) : AreBlanks (first ++ second) :=
  List.forall_mem_append.mpr ⟨areBlanks, areBlanksToo⟩

theorem AreBlanks.not_mem {character : Char} {text : List Char} (areBlanks : AreBlanks text)
    (solid : isBlank character = false) : character ∉ text := by
  intro member
  rw [areBlanks character member] at solid
  cases solid

/-! ### Trimming -/

section

variable {before text after : List Char}

theorem trimStart_append_of_blanks (areBlanks : AreBlanks before) :
    trimStart (before ++ text) = trimStart text :=
  List.dropWhile_append_of_pos areBlanks

theorem trimEnd_append_of_blanks (areBlanks : AreBlanks after) :
    trimEnd (text ++ after) = trimEnd text := by
  have reversed : ∀ character ∈ after.reverse, isBlank character = true :=
    fun character member => areBlanks character (List.mem_reverse.mp member)
  rw [trimEnd, List.reverse_append, List.dropWhile_append_of_pos reversed, ← trimEnd]

/-- Nothing is left of blanks. -/
theorem trimStart_of_areBlanks (areBlanks : AreBlanks text) : trimStart text = [] := by
  have cut : trimStart (text ++ []) = trimStart [] := trimStart_append_of_blanks areBlanks
  rw [List.append_nil] at cut
  exact cut

theorem trimEnd_of_areBlanks (areBlanks : AreBlanks text) : trimEnd text = [] := by
  have cut : trimEnd ([] ++ text) = trimEnd [] := trimEnd_append_of_blanks areBlanks
  exact cut

theorem trim_of_areBlanks (areBlanks : AreBlanks text) : trim text = [] := by
  rw [trim, trimStart_of_areBlanks areBlanks]
  rfl

/-- A character that is no blank keeps what is behind it from being cut at the front. -/
theorem trimStart_append_cons {character : Char} (solid : isBlank character = false) :
    trimStart (before ++ character :: after) = trimStart before ++ character :: after := by
  rw [trimStart, List.dropWhile_append]
  split
  · rename_i nothing
    rw [List.dropWhile_cons_of_neg (by simp [solid]), trimStart, List.isEmpty_iff.mp nothing]
    rfl
  · rfl

/-- Nor is what is before it cut at the end. -/
theorem trimEnd_append_cons {character : Char} (solid : isBlank character = false) :
    trimEnd (before ++ character :: after) = before ++ character :: trimEnd after := by
  have reversed : (after.reverse ++ character :: before.reverse).dropWhile isBlank =
      trimStart after.reverse ++ character :: before.reverse := trimStart_append_cons solid
  rw [trimEnd, List.reverse_append, List.reverse_cons, List.append_assoc, List.singleton_append,
    reversed]
  simp [trimStart, trimEnd]

theorem trim_append_cons {character : Char} (solid : isBlank character = false) :
    trim (before ++ character :: after) = trimStart before ++ character :: trimEnd after := by
  rw [trim, trimStart_append_cons solid, trimEnd_append_cons solid]

/-- Blanks before a text do not matter once it is trimmed, nor do those behind it. -/
theorem trim_append_of_blanks (areBlanks : AreBlanks before) (areBlanksToo : AreBlanks after) :
    trim (before ++ (text ++ after)) = trim text := by
  rw [trim, trimStart_append_of_blanks areBlanks, trimStart, List.dropWhile_append]
  split
  · rename_i nothing
    rw [← trimStart, trimStart_of_areBlanks areBlanksToo, trim, trimStart,
      List.isEmpty_iff.mp nothing]
  · exact trimEnd_append_of_blanks areBlanksToo

theorem exists_blanks_before (text : List Char) :
    ∃ before, AreBlanks before ∧ text = before ++ trimStart text :=
  ⟨text.takeWhile isBlank, List.all_eq_true.mp List.all_takeWhile,
    List.takeWhile_append_dropWhile.symm⟩

theorem exists_blanks_behind (text : List Char) :
    ∃ after, AreBlanks after ∧ text = trimEnd text ++ after := by
  obtain ⟨before, areBlanks, whole⟩ := exists_blanks_before text.reverse
  refine ⟨before.reverse, fun character member => ?_, ?_⟩
  · exact areBlanks character (List.mem_reverse.mp member)
  · have turned := congrArg List.reverse whole
    rw [List.reverse_append, List.reverse_reverse] at turned
    exact turned

/-- A text is what is left of it once it is trimmed, and the blanks around that. -/
theorem exists_blanks_around (text : List Char) :
    ∃ before after, AreBlanks before ∧ AreBlanks after ∧ text = before ++ (trim text ++ after) := by
  obtain ⟨before, areBlanks, whole⟩ := exists_blanks_before text
  obtain ⟨after, areBlanksToo, rest⟩ := exists_blanks_behind (trimStart text)
  refine ⟨before, after, areBlanks, areBlanksToo, ?_⟩
  rw [trim, ← rest]
  exact whole

theorem trim_trimStart (text : List Char) : trim (trimStart text) = trim text := by
  obtain ⟨before, areBlanks, whole⟩ := exists_blanks_before text
  calc trim (trimStart text)
      = trim (before ++ (trimStart text ++ [])) :=
        (trim_append_of_blanks areBlanks areBlanks_nil).symm
    _ = trim text := by rw [List.append_nil, ← whole]

theorem trim_trimEnd (text : List Char) : trim (trimEnd text) = trim text := by
  obtain ⟨after, areBlanks, whole⟩ := exists_blanks_behind text
  calc trim (trimEnd text)
      = trim ([] ++ (trimEnd text ++ after)) :=
        (trim_append_of_blanks areBlanks_nil areBlanks).symm
    _ = trim text := by rw [List.nil_append, ← whole]

/-- A text that is not just blanks has not all of it cut off at its end. -/
theorem trimEnd_ne_nil (notBlank : ¬ AreBlanks text) : trimEnd text ≠ [] := by
  intro empty
  obtain ⟨after, areBlanks, whole⟩ := exists_blanks_behind text
  rw [empty, List.nil_append] at whole
  exact notBlank (whole ▸ areBlanks)

theorem trim_ne_nil (notBlank : ¬ AreBlanks text) : trim text ≠ [] := by
  intro empty
  obtain ⟨before, after, areBlanks, areBlanksToo, whole⟩ := exists_blanks_around text
  rw [empty, List.nil_append] at whole
  exact notBlank (whole ▸ areBlanks.append areBlanksToo)

/-- The characters of a trimmed text are of the text. -/
theorem mem_of_mem_trim {character : Char} (member : character ∈ trim text) : character ∈ text := by
  obtain ⟨before, after, -, -, whole⟩ := exists_blanks_around text
  rw [whole]
  simp [member]

end

end RecordMapper.Text
