/-
This file says how a text is cut at separators. Cutting a text in two at a separator and taking the
pieces of both parts is the same as taking the pieces of the whole. Of a text that is cut at the
first separator only, whatever stands behind it stays together, further separators included. What
follows an opening is known just if the text begins with it.
-/

import RecordMapper.Text.Blank

namespace RecordMapper.Text

/-! ### Pieces -/

section

variable {separates : Char → Bool} {separator : Char}

theorem pieces_eq_splitOnP (text : List Char) :
    pieces separates text = text.splitOnP separates := by
  induction text with
  | nil => rfl
  | cons character rest inductionHypothesis =>
    rw [pieces, List.splitOnP_cons_eq_if_modifyHead, inductionHypothesis]
    cases cut : rest.splitOnP separates with
    | nil => exact absurd cut (List.splitOnP_ne_nil _ _)
    | cons first others => rfl

/-- The pieces of a text are those before and those after any of its separators. -/
theorem pieces_append_cons (separating : separates separator = true) (first rest : List Char) :
    pieces separates (first ++ separator :: rest) =
      pieces separates first ++ pieces separates rest := by
  simp only [pieces_eq_splitOnP]
  exact List.splitOnP_append_cons first rest separating

/-- A text without separators is one piece. -/
theorem pieces_of_free {text : List Char} (free : ∀ character ∈ text, separates character = false) :
    pieces separates text = [text] := by
  rw [pieces_eq_splitOnP]
  exact List.splitOnP_eq_singleton free

end

/-! ### Cutting -/

section

variable {separator : Char} {before after : List Char}

theorem cut_eq_none (free : separator ∉ before) : cut separator before = none := by
  induction before with
  | nil => rfl
  | cons character rest inductionHypothesis =>
    rw [List.mem_cons, not_or] at free
    simp [cut, Ne.symm free.1, inductionHypothesis free.2]

/-- A text is cut at the first of its separators. -/
theorem cut_append_cons (free : separator ∉ before) :
    cut separator (before ++ separator :: after) = some (before, after) := by
  induction before with
  | nil => simp [cut]
  | cons character rest inductionHypothesis =>
    rw [List.mem_cons, not_or] at free
    simp [cut, Ne.symm free.1, inductionHypothesis free.2]

end

/-! ### Openings -/

theorem withoutOpening_eq_some {opening text rest : List Char} :
    withoutOpening opening text = some rest ↔ text = opening ++ rest := by
  induction opening generalizing text with
  | nil => simp [withoutOpening]
  | cons expected opening inductionHypothesis =>
    cases text with
    | nil => simp [withoutOpening]
    | cons character text =>
      rw [withoutOpening, List.cons_append, List.cons.injEq]
      by_cases same : expected = character
      · simp [same, inductionHypothesis]
      · simp [same, Ne.symm same]

theorem isSome_withoutOpening {opening text : List Char} :
    (withoutOpening opening text).isSome = true ↔ opening <+: text := by
  rw [Option.isSome_iff_exists]
  exact exists_congr fun rest => withoutOpening_eq_some.trans eq_comm

end RecordMapper.Text
