/-
This file follows lines through being put together and trimmed. Lines that are each ended by a line
feed make a text, and the blanks around the text are cut off. What that takes away are lines of
blanks at both ends, the blanks before the first line that is left and those behind the last one.
Whatever lies between stays as it is. So if neither the first line nor the last one is blank, the
text still has one piece for every line, which is the line but for blanks at its ends.
-/

import Mathlib.Data.List.DropRight
import RecordMapper.Proofs.Text.Pieces
import RecordMapper.Proofs.Text.Trimming

namespace RecordMapper.Text

/-! ### Texts that are not just blanks -/

section

variable {text before after : List Char}

theorem exists_solid (notBlank : ¬ AreBlanks text) :
    ∃ front character back, text = front ++ character :: back ∧ isBlank character = false := by
  simp only [AreBlanks, Classical.not_forall, Bool.not_eq_true] at notBlank
  obtain ⟨character, member, solid⟩ := notBlank
  obtain ⟨front, back, whole⟩ := List.append_of_mem member
  exact ⟨front, character, back, whole, solid⟩

/-- A text that is not just blanks keeps what is behind it from being cut at the front. -/
theorem trimStart_append_of_notBlank (notBlank : ¬ AreBlanks text) :
    trimStart (text ++ after) = trimStart text ++ after := by
  obtain ⟨front, character, back, rfl, solid⟩ := exists_solid notBlank
  rw [List.append_assoc, List.cons_append, trimStart_append_cons solid,
    trimStart_append_cons solid, List.append_assoc, List.cons_append]

/-- Nor is what is before it cut at the end. -/
theorem trimEnd_append_of_notBlank (notBlank : ¬ AreBlanks text) :
    trimEnd (before ++ text) = before ++ trimEnd text := by
  obtain ⟨front, character, back, rfl, solid⟩ := exists_solid notBlank
  rw [← List.append_assoc, trimEnd_append_cons solid, trimEnd_append_cons solid,
    List.append_assoc]

theorem trim_eq_nil_iff : trim text = [] ↔ AreBlanks text :=
  ⟨fun empty => by_contra fun notBlank => trim_ne_nil notBlank empty, trim_of_areBlanks⟩

theorem areBlanks_trimStart_iff : AreBlanks (trimStart text) ↔ AreBlanks text := by
  rw [← trim_eq_nil_iff, trim_trimStart, trim_eq_nil_iff]

end

/-! ### Pieces -/

/-- No piece has a separator in it. -/
theorem separates_of_mem_pieces {separates : Char → Bool} {text piece : List Char}
    (member : piece ∈ pieces separates text) :
    ∀ character ∈ piece, separates character = false := by
  induction text generalizing piece with
  | nil =>
    rw [pieces, List.mem_singleton] at member
    rw [member]
    exact List.forall_mem_nil _
  | cons character rest inductionHypothesis =>
    unfold pieces at member
    split at member
    · rcases List.mem_cons.mp member with rfl | later
      · exact List.forall_mem_nil _
      · exact inductionHypothesis later
    · rename_i solid
      have free : separates character = false := by simpa using solid
      split at member
      · rw [List.mem_singleton.mp member]
        simpa using free
      · rename_i first others cut
        rw [cut] at inductionHypothesis
        rcases List.mem_cons.mp member with rfl | later
        · exact List.forall_mem_cons.mpr ⟨free, inductionHypothesis List.mem_cons_self⟩
        · exact inductionHypothesis (List.mem_cons_of_mem _ later)

theorem pieces_ne_nil (separates : Char → Bool) (text : List Char) :
    pieces separates text ≠ [] := by
  rw [pieces_eq_splitOnP]
  exact List.splitOnP_ne_nil _ _

/-! ### Lines side by side -/

/-- A text of lines, each of them with a line feed behind it. -/
def terminated (each : List (List Char)) : List Char :=
  each.flatMap fun line => line ++ ['\n']

theorem terminated_cons (line : List Char) (rest : List (List Char)) :
    terminated (line :: rest) = line ++ '\n' :: terminated rest := by
  rw [terminated, List.flatMap_cons, List.append_assoc, ← terminated]
  rfl

theorem terminated_append (first second : List (List Char)) :
    terminated (first ++ second) = terminated first ++ terminated second :=
  List.flatMap_append

/-- Lines of blanks make a text of blanks. -/
theorem areBlanks_terminated_iff {each : List (List Char)} :
    AreBlanks (terminated each) ↔ ∀ line ∈ each, AreBlanks line := by
  unfold AreBlanks terminated
  simp only [List.mem_flatMap, List.mem_append, List.mem_singleton]
  constructor
  · intro blank line member character inLine
    exact blank character ⟨line, member, .inl inLine⟩
  · rintro blank _ ⟨line, member, inLine | rfl⟩
    · exact blank line member _ inLine
    · rfl

/-- The line feed behind the last line does not matter once the text is trimmed. -/
theorem trim_terminated (each : List (List Char)) :
    trim (terminated each) = trim (['\n'].intercalate each) := by
  have feed : AreBlanks ['\n'] := by decide
  cases each with
  | nil => rfl
  | cons first rest =>
    have ended : terminated (first :: rest) = ['\n'].intercalate (first :: rest) ++ ['\n'] := by
      induction rest generalizing first with
      | nil => simp [terminated]
      | cons next others inductionHypothesis =>
        rw [terminated_cons, inductionHypothesis, List.intercalate_cons_cons]
        simp
    rw [ended]
    exact trim_append_of_blanks areBlanks_nil feed

/-- Lines of blanks around other lines do not matter once the text is trimmed. -/
theorem trim_terminated_between {front each back : List (List Char)}
    (blankFront : ∀ line ∈ front, AreBlanks line) (blankBack : ∀ line ∈ back, AreBlanks line) :
    trim (terminated (front ++ (each ++ back))) = trim (terminated each) := by
  rw [terminated_append, terminated_append]
  exact trim_append_of_blanks (areBlanks_terminated_iff.mpr blankFront)
    (areBlanks_terminated_iff.mpr blankBack)

/-! ### Pieces of lines side by side -/

section

variable {each : List (List Char)}

theorem pieces_of_line {line : List Char} (free : '\n' ∉ line) :
    pieces (· == '\n') line = [line] :=
  pieces_of_free fun _ member =>
    beq_eq_false_iff_ne.mpr fun same => free (same ▸ member)

/-- Lines of which the last is not blank come back as pieces, but for blanks at their ends. -/
theorem map_trim_pieces_trimEnd (free : ∀ line ∈ each, '\n' ∉ line)
    (nonempty : each ≠ []) (last : ∀ line ∈ each.getLast?, ¬ AreBlanks line) :
    (pieces (· == '\n') (trimEnd (terminated each))).map trim = each.map trim := by
  induction each with
  | nil => exact absurd rfl nonempty
  | cons line rest inductionHypothesis =>
    obtain ⟨freeLine, freeRest⟩ := List.forall_mem_cons.mp free
    rw [terminated_cons]
    cases rest with
    | nil =>
      have feed : AreBlanks ['\n'] := by decide
      have freeEnd : '\n' ∉ trimEnd line := by
        obtain ⟨after, -, whole⟩ := exists_blanks_behind line
        rw [whole] at freeLine
        exact fun member => freeLine (List.mem_append_left _ member)
      show (pieces (· == '\n') (trimEnd (line ++ ['\n']))).map trim = _
      rw [trimEnd_append_of_blanks feed, pieces_of_line freeEnd, List.map_singleton, trim_trimEnd]
      rfl
    | cons next others =>
      rw [List.getLast?_cons_cons] at last
      have behind : ¬ AreBlanks (terminated (next :: others)) := by
        intro blank
        have member := List.getLast_mem (List.cons_ne_nil next others)
        exact last _ (List.getLast?_eq_some_getLast _) (areBlanks_terminated_iff.mp blank _ member)
      have split : line ++ '\n' :: terminated (next :: others) =
          (line ++ ['\n']) ++ terminated (next :: others) := by simp
      rw [split, trimEnd_append_of_notBlank behind, List.append_assoc, List.singleton_append,
        pieces_append_cons (by rfl), pieces_of_line freeLine, List.singleton_append, List.map_cons,
        inductionHypothesis freeRest (List.cons_ne_nil _ _) last]
      rfl

/-- Lines of which neither the first nor the last is blank come back as pieces, but for blanks at
their ends. -/
theorem map_trim_pieces_trim (free : ∀ line ∈ each, '\n' ∉ line) (nonempty : each ≠ [])
    (first : ∀ line ∈ each.head?, ¬ AreBlanks line)
    (last : ∀ line ∈ each.getLast?, ¬ AreBlanks line) :
    (pieces (· == '\n') (trim (terminated each))).map trim = each.map trim := by
  cases each with
  | nil => exact absurd rfl nonempty
  | cons line rest =>
    have someLine : ¬ AreBlanks line := first line rfl
    obtain ⟨freeLine, freeRest⟩ := List.forall_mem_cons.mp free
    have freeStart : '\n' ∉ trimStart line := fun member =>
      freeLine ((List.dropWhile_sublist _).subset member)
    have moved : trimStart (terminated (line :: rest)) = terminated (trimStart line :: rest) := by
      rw [terminated_cons, trimStart_append_of_notBlank someLine, terminated_cons]
    have lastStart : ∀ other ∈ (trimStart line :: rest).getLast?, ¬ AreBlanks other := by
      cases rest with
      | nil =>
        rw [List.getLast?_singleton]
        rintro other ⟨⟩
        rwa [areBlanks_trimStart_iff]
      | cons next others =>
        rw [List.getLast?_cons_cons] at last ⊢
        exact last
    rw [trim, moved, map_trim_pieces_trimEnd (List.forall_mem_cons.mpr ⟨freeStart, freeRest⟩)
      (List.cons_ne_nil _ _) lastStart, List.map_cons, trim_trimStart, List.map_cons]

/-- Among lines that are not all blank there is a run that ends in no blank one at either side, with
lines of blanks before and behind it. -/
theorem exists_run_between (notAllBlank : ∃ line ∈ each, ¬ AreBlanks line) :
    ∃ front run back, each = front ++ (run ++ back) ∧ (∀ line ∈ front, AreBlanks line) ∧
      (∀ line ∈ back, AreBlanks line) ∧ run ≠ [] ∧ (∀ line ∈ run.head?, ¬ AreBlanks line) ∧
      ∀ line ∈ run.getLast?, ¬ AreBlanks line := by
  let isBlankLine : List Char → Bool := fun line => decide (AreBlanks line)
  have blanks {part : List (List Char)} (all : ∀ line ∈ part, isBlankLine line = true) :
      ∀ line ∈ part, AreBlanks line := fun line member => of_decide_eq_true (all line member)
  let rest := each.dropWhile isBlankLine
  have split : each = each.takeWhile isBlankLine ++
      (rest.rdropWhile isBlankLine ++ rest.rtakeWhile isBlankLine) := by
    rw [List.rdropWhile_append_rtakeWhile, List.takeWhile_append_dropWhile]
  have blankFront := blanks (List.all_eq_true.mp (List.all_takeWhile (l := each)))
  have blankBack : ∀ line ∈ rest.rtakeWhile isBlankLine, AreBlanks line :=
    blanks fun line member => List.mem_rtakeWhile_imp member
  have run : rest.rdropWhile isBlankLine ≠ [] := by
    intro empty
    obtain ⟨line, member, solid⟩ := notAllBlank
    rw [split, empty, List.nil_append] at member
    exact solid ((List.mem_append.mp member).elim (blankFront line) (blankBack line))
  refine ⟨_, _, _, split, blankFront, blankBack, run, fun line member => ?_, fun line member => ?_⟩
  · -- The first line of the run is the first one behind the blank lines in front.
    obtain ⟨behind, whole⟩ := List.rdropWhile_prefix isBlankLine (l := rest)
    have head : line ∈ rest.head? := by
      rw [← whole, List.head?_append]
      rw [Option.mem_def] at member
      rw [member]
      rfl
    have ends := List.head?_dropWhile_not isBlankLine each
    rw [Option.mem_def] at head
    simp only [rest] at head
    rw [head] at ends
    simpa [isBlankLine] using ends
  · have ends := List.rdropWhile_last_not isBlankLine rest run
    rw [Option.mem_def, List.getLast?_eq_some_getLast run] at member
    rw [Option.some_inj.mp member] at ends
    simpa [isBlankLine] using ends

end

end RecordMapper.Text
