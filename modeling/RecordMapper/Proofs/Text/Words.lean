/-
This file proves how texts are taken apart into words and put together again. A text lays out words
if they stand in it in their order, with at least one blank between neighbours and any blanks
around; its words are then just these. A neat text is one that lays out its words with a single
space between neighbours and nothing around them. Putting the words of a text together makes a neat
text of it. A token is spelled by any text that lays out its words, in whatever case.
-/

import RecordMapper.Proofs.Text.Trimming

namespace RecordMapper.Text

/-! ### Laying out words -/

/-- A text before which a word ends: it begins with a blank or is empty. -/
def EndsWord (text : List Char) : Prop :=
  ∀ character ∈ text.head?, isBlank character = true

theorem endsWord_cons {character : Char} {text : List Char} (blank : isBlank character = true) :
    EndsWord (character :: text) :=
  fun _ member => Option.some_inj.mp member ▸ blank

theorem AreBlanks.endsWord {text : List Char} (areBlanks : AreBlanks text) : EndsWord text :=
  fun character member => areBlanks character (List.mem_of_mem_head? member)

theorem EndsWord.append {text more : List Char} (ends : EndsWord text) (endsToo : EndsWord more) :
    EndsWord (text ++ more) := by
  cases text with
  | nil => exact endsToo
  | cons character rest => exact endsWord_cons (ends character rfl)

/-- Words stand in a text in their order, with blanks between them and perhaps around them. -/
inductive LaysOut : List (List Char) → List Char → Prop
  | blanks {text : List Char} (areBlanks : AreBlanks text) : LaysOut [] text
  | word {before word after : List Char} {others : List (List Char)} (areBlanks : AreBlanks before)
    (solid : IsSolid word) (ends : EndsWord after) (behind : LaysOut others after) :
    LaysOut (word :: others) (before ++ (word ++ after))

theorem LaysOut.areSolid {each : List (List Char)} {text : List Char} (laid : LaysOut each text) :
    ∀ word ∈ each, IsSolid word := by
  induction laid with
  | blanks => exact fun _ member => absurd member List.not_mem_nil
  | word _ solid _ _ inductionHypothesis =>
    exact List.forall_mem_cons.mpr ⟨solid, inductionHypothesis⟩

/-- Blanks in front do not matter. -/
theorem LaysOut.behind_blanks {each : List (List Char)} {before text : List Char}
    (areBlanks : AreBlanks before) (laid : LaysOut each text) : LaysOut each (before ++ text) := by
  cases laid with
  | blanks areBlanksToo => exact .blanks (areBlanks.append areBlanksToo)
  | word areBlanksToo solid ends behind =>
    rw [← List.append_assoc]
    exact .word (areBlanks.append areBlanksToo) solid ends behind

/-- Two texts side by side lay out the words of both, if no word runs on from the one into the
other. -/
theorem LaysOut.append {first second : List (List Char)} {text more : List Char}
    (laid : LaysOut first text) (ends : EndsWord more) (laidBehind : LaysOut second more) :
    LaysOut (first ++ second) (text ++ more) := by
  induction laid with
  | blanks areBlanks => exact laidBehind.behind_blanks areBlanks
  | @word before word after others areBlanks solid endsBefore _ inductionHypothesis =>
    rw [List.append_assoc, List.append_assoc]
    exact .word areBlanks solid (endsBefore.append ends) inductionHypothesis

/-- A character of a text that lays out words is a blank or belongs to them. -/
theorem LaysOut.mem {each : List (List Char)} {text : List Char} {character : Char}
    (laid : LaysOut each text) (member : character ∈ text) :
    isBlank character = true ∨ character ∈ [' '].intercalate each := by
  induction laid with
  | blanks areBlanks => exact .inl (areBlanks character member)
  | @word before word after others areBlanks _ _ _ inductionHypothesis =>
    have joined : character ∈ word ∨ character ∈ [' '].intercalate others →
        character ∈ [' '].intercalate (word :: others) := by
      cases others with
      | nil => simp
      | cons next others =>
        rw [List.intercalate_cons_cons, List.mem_append, List.mem_append]
        exact Or.imp_left .inl
    rcases List.mem_append.mp member with blank | solid
    · exact .inl (areBlanks character blank)
    · rcases List.mem_append.mp solid with first | later
      · exact .inr (joined (.inl first))
      · exact (inductionHypothesis later).imp_right fun found => joined (.inr found)

/-! ### Taking apart -/

section

variable {character : Char} {word text : List Char}

theorem words_cons_of_blank (blank : isBlank character = true) :
    words (character :: text) = words text := by
  simp [words, pieces, blank]

theorem words_append_of_blanks {before : List Char} (areBlanks : AreBlanks before) :
    words (before ++ text) = words text := by
  induction before with
  | nil => rfl
  | cons first before inductionHypothesis =>
    rw [List.cons_append, words_cons_of_blank (areBlanks first List.mem_cons_self)]
    exact inductionHypothesis fun each later => areBlanks each (List.mem_cons_of_mem _ later)

/-- A text without blanks goes to the first piece of what follows. -/
theorem pieces_append_of_solid {first : List Char} {others : List (List Char)}
    (noBlanks : ∀ each ∈ word, isBlank each = false) (cut : pieces isBlank text = first :: others) :
    pieces isBlank (word ++ text) = (word ++ first) :: others := by
  induction word with
  | nil => exact cut
  | cons head word inductionHypothesis =>
    have behind := inductionHypothesis fun each later =>
      noBlanks each (List.mem_cons_of_mem _ later)
    simp only [List.cons_append, pieces, noBlanks head List.mem_cons_self, behind,
      Bool.false_eq_true, if_false]

/-- A word at the front is the first of the words, if it ends there. -/
theorem words_append_of_solid (solid : IsSolid word) (ends : EndsWord text) :
    words (word ++ text) = word :: words text := by
  have nonempty : word.isEmpty = false := by simpa using solid.1
  cases text with
  | nil =>
    rw [words, pieces_append_of_solid solid.2 rfl]
    simp [nonempty, words, pieces]
  | cons first rest =>
    have blank := ends first rfl
    have cut : pieces isBlank (first :: rest) = [] :: pieces isBlank rest := by
      simp [pieces, blank]
    rw [words, pieces_append_of_solid solid.2 cut, words_cons_of_blank blank]
    simp [nonempty, words]

/-- A text without blanks is one word. -/
theorem words_of_isSolid (solid : IsSolid word) : words word = [word] := by
  have alone := words_append_of_solid solid areBlanks_nil.endsWord
  rw [List.append_nil] at alone
  exact alone

end

/-- The words of a text are those that it lays out. -/
theorem words_of_laysOut {each : List (List Char)} {text : List Char} (laid : LaysOut each text) :
    words text = each := by
  induction laid with
  | @blanks text areBlanks =>
    rw [← List.append_nil text, words_append_of_blanks areBlanks]
    rfl
  | word areBlanks solid ends _ inductionHypothesis =>
    rw [words_append_of_blanks areBlanks, words_append_of_solid solid ends, inductionHypothesis]

/-- A character that is no blank makes the first word longer or is a word of its own. -/
theorem LaysOut.behind_character {each : List (List Char)} {character : Char} {text : List Char}
    (noBlank : isBlank character = false) (laid : LaysOut each text) :
    ∃ longer, LaysOut longer (character :: text) := by
  have alone : IsSolid [character] :=
    ⟨List.cons_ne_nil _ _, fun other member => by rw [List.mem_singleton.mp member, noBlank]⟩
  cases laid with
  | blanks areBlanks =>
    exact ⟨_, .word areBlanks_nil alone areBlanks.endsWord (.blanks areBlanks)⟩
  | @word before word after others areBlanks solid ends behind =>
    cases before with
    | nil => exact ⟨_, .word areBlanks_nil (alone.append solid) ends behind⟩
    | cons blank before =>
      exact ⟨_, .word areBlanks_nil alone (endsWord_cons (areBlanks blank List.mem_cons_self))
        (.word areBlanks solid ends behind)⟩

/-- Every text lays out words. -/
theorem laysOut_words (text : List Char) : LaysOut (words text) text := by
  have exists_laysOut : ∃ each, LaysOut each text := by
    induction text with
    | nil => exact ⟨[], .blanks areBlanks_nil⟩
    | cons character rest inductionHypothesis =>
      obtain ⟨each, laid⟩ := inductionHypothesis
      cases blank : isBlank character with
      | true => exact ⟨each, laid.behind_blanks (areBlanks_nil.cons blank)⟩
      | false => exact laid.behind_character blank
  obtain ⟨each, laid⟩ := exists_laysOut
  rw [words_of_laysOut laid]
  exact laid

/-- The words of two texts side by side, if no word runs on from the one into the other. -/
theorem words_append {text more : List Char} (ends : EndsWord more) :
    words (text ++ more) = words text ++ words more :=
  words_of_laysOut ((laysOut_words text).append ends (laysOut_words more))

/-- Blanks behind a text add no word to it. -/
theorem words_append_blanks {text after : List Char} (areBlanks : AreBlanks after) :
    words (text ++ after) = words text := by
  rw [words_append areBlanks.endsWord, words_of_laysOut (.blanks areBlanks), List.append_nil]

/-- Trimming a text leaves its words as they are. -/
theorem singleSpaced_trim (text : List Char) : singleSpaced (trim text) = singleSpaced text := by
  obtain ⟨before, after, areBlanks, areBlanksToo, whole⟩ := exists_blanks_around text
  have same : words text = words (trim text) := by
    calc words text
        = words (before ++ (trim text ++ after)) := congrArg words whole
      _ = words (trim text) := by
        rw [words_append_of_blanks areBlanks, words_append areBlanksToo.endsWord,
          words_of_laysOut (.blanks areBlanksToo), List.append_nil]
  rw [singleSpaced, singleSpaced, same]

/-- A text that is not just blanks has words. -/
theorem words_ne_nil {text : List Char} (notBlank : ¬ AreBlanks text) : words text ≠ [] := by
  intro wordless
  have laid := laysOut_words text
  rw [wordless] at laid
  cases laid with
  | blanks areBlanks => exact notBlank areBlanks

/-! ### Neat texts -/

/-- A text of words with a single space between neighbours and nothing around them. -/
inductive IsNeat : List Char → Prop
  | word {word : List Char} (solid : IsSolid word) : IsNeat word
  | behind {word text : List Char} (solid : IsSolid word) (neat : IsNeat text) :
    IsNeat (word ++ ' ' :: text)

/-- Lists of words side by side, put together. -/
theorem intercalate_append {first second : List (List Char)} (nonempty : first ≠ [])
    (someToo : second ≠ []) : [' '].intercalate (first ++ second) =
      [' '].intercalate first ++ ' ' :: [' '].intercalate second := by
  induction first with
  | nil => contradiction
  | cons word others inductionHypothesis =>
    cases others with
    | nil => simp [List.intercalate_cons_of_ne_nil someToo]
    | cons next others =>
      rw [List.cons_append, List.intercalate_cons_of_ne_nil (by simp),
        inductionHypothesis (by simp), List.intercalate_cons_cons]
      simp

/-- Words that are put together are a neat text. -/
theorem isNeat_intercalate {each : List (List Char)} (nonempty : each ≠ [])
    (areSolid : ∀ word ∈ each, IsSolid word) : IsNeat ([' '].intercalate each) := by
  induction each with
  | nil => contradiction
  | cons word others inductionHypothesis =>
    obtain ⟨solid, solidOthers⟩ := List.forall_mem_cons.mp areSolid
    cases others with
    | nil =>
      rw [List.intercalate_singleton]
      exact .word solid
    | cons next others =>
      rw [List.intercalate_cons_cons, List.append_assoc]
      exact .behind solid (inductionHypothesis (by simp) solidOthers)

/-- The words of a text that is not just blanks make a neat text. -/
theorem isNeat_singleSpaced {text : List Char} (notBlank : ¬ AreBlanks text) :
    IsNeat (singleSpaced text) :=
  isNeat_intercalate (words_ne_nil notBlank) (laysOut_words text).areSolid

section

variable {text word : List Char} (neat : IsNeat text)

include neat

theorem IsNeat.words_ne_nil : words text ≠ [] := by
  cases neat with
  | word solid =>
    rw [words_of_isSolid solid]
    exact List.cons_ne_nil _ _
  | behind solid _ =>
    rw [words_append_of_solid solid (endsWord_cons (by decide))]
    exact List.cons_ne_nil _ _

/-- Putting the words of a neat text together gives it back. -/
theorem IsNeat.singleSpaced : singleSpaced text = text := by
  induction neat with
  | @word word solid =>
    rw [Text.singleSpaced, words_of_isSolid solid, List.intercalate_singleton]
  | @behind word text solid neat inductionHypothesis =>
    rw [Text.singleSpaced, words_append_of_solid solid (endsWord_cons (by decide)),
      words_cons_of_blank (by decide), List.intercalate_cons_of_ne_nil neat.words_ne_nil,
      ← Text.singleSpaced, inductionHypothesis]
    simp

/-- A text without blanks makes the last word of a neat text longer. -/
theorem IsNeat.append_solid (solid : IsSolid word) : IsNeat (text ++ word) := by
  induction neat with
  | word solidToo => exact .word (solidToo.append solid)
  | behind solidToo _ inductionHypothesis =>
    rw [List.append_assoc, List.cons_append]
    exact .behind solidToo inductionHypothesis

/-- A neat text begins with no blank. -/
theorem IsNeat.head : ∃ first rest, text = first :: rest ∧ isBlank first = false := by
  have front : ∀ {word behind : List Char}, IsSolid word →
      ∃ first rest, word ++ behind = first :: rest ∧ isBlank first = false := by
    intro word behind solid
    obtain ⟨first, rest, rfl⟩ := List.exists_cons_of_ne_nil solid.1
    exact ⟨first, rest ++ behind, rfl, solid.2 first List.mem_cons_self⟩
  cases neat with
  | word solid => simpa using @front _ [] solid
  | behind solid _ => exact front solid

/-- A neat text ends with no blank. -/
theorem IsNeat.last : ∃ front final, text = front ++ [final] ∧ isBlank final = false := by
  induction neat with
  | @word word solid =>
    refine ⟨word.dropLast, word.getLast solid.1, (List.dropLast_concat_getLast solid.1).symm, ?_⟩
    exact solid.2 _ (List.getLast_mem solid.1)
  | @behind word _ _ _ inductionHypothesis =>
    obtain ⟨front, final, rfl, noBlank⟩ := inductionHypothesis
    exact ⟨word ++ ' ' :: front, final, by simp, noBlank⟩

/-- Blanks behind a neat text are what trimming its end takes away. -/
theorem IsNeat.trimEnd_append {behind : List Char} (areBlanks : AreBlanks behind) :
    trimEnd (text ++ behind) = text := by
  obtain ⟨front, final, rfl, noBlank⟩ := neat.last
  rw [List.append_assoc, List.singleton_append, trimEnd_append_cons noBlank,
    trimEnd_of_areBlanks areBlanks]

/-- Blanks around a neat text do not matter. -/
theorem IsNeat.singleSpaced_between {before behind : List Char} (areBlanks : AreBlanks before)
    (areBlanksToo : AreBlanks behind) :
    Text.singleSpaced (before ++ (text ++ behind)) = text := by
  rw [Text.singleSpaced, words_append_of_blanks areBlanks, words_append areBlanksToo.endsWord,
    words_of_laysOut (.blanks areBlanksToo), List.append_nil, ← Text.singleSpaced,
    neat.singleSpaced]

/-- Words behind a neat text are put behind it with a single space. -/
theorem IsNeat.singleSpaced_append {before behind : List Char} {each : List (List Char)}
    (areBlanks : AreBlanks before) (ends : EndsWord behind) (laid : LaysOut each behind)
    (nonempty : each ≠ []) : Text.singleSpaced (before ++ (text ++ behind)) =
      text ++ ' ' :: [' '].intercalate each := by
  rw [Text.singleSpaced, words_append_of_blanks areBlanks, words_append ends,
    words_of_laysOut laid, intercalate_append neat.words_ne_nil nonempty, ← Text.singleSpaced,
    neat.singleSpaced]

/-- What stands before the last space of a neat text is neat. -/
theorem IsNeat.before {before : List Char} (solid : IsSolid word)
    (cut : text = before ++ ' ' :: word) : IsNeat before := by
  have others : words text = words before ++ [word] := by
    rw [cut, words_append (endsWord_cons (by decide)), words_cons_of_blank (by decide),
      words_of_isSolid solid]
  have whole := neat.singleSpaced
  rw [Text.singleSpaced, others, cut] at whole
  by_cases wordless : words before = []
  · have longer := congrArg List.length whole
    simp [wordless] at longer
    omega
  · rw [intercalate_append wordless (List.cons_ne_nil _ _), List.intercalate_singleton] at whole
    rw [← List.append_cancel_right whole]
    exact isNeat_intercalate wordless (laysOut_words before).areSolid

end

end RecordMapper.Text

namespace RecordMapper

open RecordMapper.Text

/-! ### Spelling -/

/-- A text spells a token: its words are those of the token, in whatever case. -/
def Spells (text : List Char) (token : String) : Prop :=
  ∃ each, LaysOut each text ∧ asciiLower ([' '].intercalate each) = token.toList

section

variable {text : List Char} {token : String}

/-- A text spells a token if it is the token, once its words are put together in lower case. -/
theorem spells_iff : Spells text token ↔ asciiLower (singleSpaced text) = token.toList := by
  constructor
  · rintro ⟨each, laid, lower⟩
    rw [singleSpaced, words_of_laysOut laid, lower]
  · exact fun lower => ⟨words text, laysOut_words text, lower⟩

instance : Decidable (Spells text token) :=
  decidable_of_iff _ spells_iff.symm

variable (spells : Spells text token)

include spells

/-- A text that spells something is not just blanks. -/
theorem Spells.not_areBlanks (named : token ≠ "") : ¬ AreBlanks text := by
  intro areBlanks
  have nothing := spells_iff.mp spells
  rw [singleSpaced, words_of_laysOut (.blanks areBlanks)] at nothing
  exact named (String.toList_eq_nil_iff.mp nothing.symm)

/-- A text that spells a token has the letters of the token and blanks only. -/
theorem Spells.mem {character : Char} (member : character ∈ text) :
    isBlank character = true ∨ character.toLower ∈ token.toList := by
  obtain ⟨each, laid, lower⟩ := spells
  rw [← lower]
  exact (laid.mem member).imp_right List.mem_map_of_mem

end

end RecordMapper
