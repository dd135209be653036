/-
This file proves that the key of a filter is read as it is written. A column and an operator behind
it are told apart however the operator is spelled, in capitals or not and with any blanks in and
around it; of the operators that overlap, the one that is tried first is the one that was written,
but for `in` behind a column that ends in `not`. A key that ends in no operator is a column. The
operand has to have the shape that the operator takes. The operator is looked for in a copy of the
key, with its letters in lower case, and is then cut off by a number of bytes; that never cuts a
character in two.
-/

import RecordMapper.Filter.Basic
import RecordMapper.Proofs.Text.Bytes
import RecordMapper.Proofs.Text.LowerCase
import RecordMapper.Proofs.Text.Words

namespace RecordMapper

open RecordMapper.Text

/-! ### Where an operator stands -/

/-- A key ends in a token that stands for an operator there: what is before it ends in a space, or
the token is one of symbols and there is something before it. -/
structure EndsIn (key token before : List Char) : Prop where
  spelled : ∃ spelled, key = before ++ spelled ∧ asciiLower spelled = token
  apart : before.getLast? = some ' ' ∨ (isSymbolic token = true ∧ before ≠ [])

section

variable {key token before spelled : List Char}

theorem isSuffixOf_asciiLower_iff : token.isSuffixOf (asciiLower key) = true ↔
    ∃ before spelled, key = before ++ spelled ∧ asciiLower spelled = token := by
  rw [List.isSuffixOf_iff_suffix]
  constructor
  · rintro ⟨front, same⟩
    obtain ⟨before, spelled, whole, -, spells⟩ := List.map_eq_append_iff.mp same.symm
    exact ⟨before, spelled, whole, spells⟩
  · rintro ⟨before, spelled, rfl, rfl⟩
    rw [asciiLower_append]
    exact List.suffix_append _ _

theorem take_before (spells : asciiLower spelled = token) :
    (before ++ spelled).take ((before ++ spelled).length - token.length) = before := by
  have length : token.length = spelled.length := by
    rw [← spells]
    exact List.length_map _
  rw [length, List.length_append, Nat.add_sub_cancel, List.take_left]

theorem columnBefore?_of_endsIn (ends : EndsIn key token before) :
    columnBefore? key token = some (trimEnd before) := by
  obtain ⟨⟨spelled, rfl, spells⟩, apart⟩ := ends
  have found := isSuffixOf_asciiLower_iff.mpr ⟨before, spelled, rfl, spells⟩
  rw [columnBefore?, if_pos found, take_before spells]
  exact if_pos apart

theorem columnBefore?_eq_none (unended : ∀ before, ¬ EndsIn key token before) :
    columnBefore? key token = none := by
  by_cases found : token.isSuffixOf (asciiLower key) = true
  · obtain ⟨before, spelled, rfl, spells⟩ := isSuffixOf_asciiLower_iff.mp found
    rw [columnBefore?, if_pos found, take_before spells]
    exact if_neg fun apart => unended before ⟨⟨spelled, rfl, spells⟩, apart⟩
  · exact if_neg found

/-- The first operator of a table that is found is the one that was written, if no operator before
it is found as well. -/
theorem splitNormal_of_endsIn {related : String × Operator → String × Operator → Prop}
    {table : List (String × Operator)} (inOrder : table.Pairwise related)
    {entry : String × Operator} (member : entry ∈ table)
    (ends : EndsIn key entry.1.toList before)
    (skips : ∀ earlier, related earlier entry →
      ∀ other, ¬ EndsIn key earlier.1.toList other) :
    splitNormal key table = (trimEnd before, entry.2) := by
  induction table with
  | nil => exact absurd member List.not_mem_nil
  | cons first rest inductionHypothesis =>
    -- What comes first is either the operator itself, or related to it and so not found.
    obtain ⟨relatedToRest, inOrderRest⟩ := List.pairwise_cons.mp inOrder
    obtain rfl | later := List.mem_cons.mp member
    · simp only [splitNormal, columnBefore?_of_endsIn ends]
    · have skipped := columnBefore?_eq_none (skips first (relatedToRest entry later))
      simp only [splitNormal, skipped]
      exact inductionHypothesis inOrderRest later

/-- A key in which no operator is found is a column. -/
theorem splitNormal_of_none {table : List (String × Operator)}
    (unended : ∀ entry ∈ table, ∀ before, ¬ EndsIn key entry.1.toList before) :
    splitNormal key table = (key, .compare .equal) := by
  induction table with
  | nil => rfl
  | cons first rest inductionHypothesis =>
    obtain ⟨noneFirst, noneRest⟩ := List.forall_mem_cons.mp unended
    simp only [splitNormal, columnBefore?_eq_none noneFirst]
    exact inductionHypothesis noneRest

end

/-! ### Operators that overlap -/

/-- Neither of two texts is the end of the other. -/
def EndApart (first second : List Char) : Prop :=
  ¬ first <:+ second ∧ ¬ second <:+ first

instance (first second : List Char) : Decidable (EndApart first second) :=
  inferInstanceAs (Decidable (_ ∧ _))

/-- The symbols of which the operators consist that are no words. -/
def marks : List Char := ['<', '>', '=', '!']

/-- An operator behind a space is not mistaken for one that is tried before, but for `in`, which
ends `not in`. -/
theorem operatorTokens_apart_spaced : operatorTokens.Pairwise fun earlier later =>
    (earlier.1 = "not in" ∧ later.1 = "in") ∨
      EndApart earlier.1.toList (' ' :: later.1.toList) := by
  decide

/-- An operator of symbols is not mistaken for one that is tried before, unless there is one more
symbol in front of it. -/
theorem operatorTokens_apart_attached : operatorTokens.Pairwise fun earlier later =>
    isSymbolic later.1.toList = true →
      earlier.1.toList ∈ marks.map (· :: later.1.toList) ∨
        EndApart earlier.1.toList later.1.toList := by
  decide

/-- No letter becomes such a symbol in lower case. -/
theorem eq_of_toLower_mem_marks {character : Char} (lower : character.toLower ∈ marks) :
    character = character.toLower := by
  obtain same | ⟨least, -, moved⟩ := toLower_cases character
  · exact same.symm
  · have low : marks.all (fun mark => Nat.ble mark.toNat 62) = true := by decide
    exact absurd (Nat.le_of_ble_eq_true (List.all_eq_true.mp low _ lower)) (by omega)

theorem operatorTokens_lower : ∀ entry ∈ operatorTokens,
    asciiLower entry.1.toList = entry.1.toList := by
  decide

theorem operatorTokens_solid : ∀ entry ∈ operatorTokens,
    isSymbolic entry.1.toList = true → IsSolid entry.1.toList := by
  decide

section

variable {key token before column spelled : List Char}

/-- Only an operator that overlaps with what a key ends in can be found in it. -/
theorem EndsIn.not_endApart {front ending : List Char}
    (ends : EndsIn (front ++ ending) token before) : ¬ EndApart token (asciiLower ending) := by
  obtain ⟨⟨spelled, whole, rfl⟩, -⟩ := ends
  have lower : asciiLower front ++ asciiLower ending = asciiLower before ++ asciiLower spelled := by
    rw [← asciiLower_append, whole, asciiLower_append]
  rintro ⟨notEnd, notEndToo⟩
  obtain shorter | longer := List.suffix_or_suffix_of_suffix (List.suffix_append _ _)
    (lower ▸ List.suffix_append (asciiLower front) (asciiLower ending))
  · exact notEnd shorter
  · exact notEndToo longer

/-- Where an operator is found that has one more symbol in front, that symbol ends the column. -/
theorem EndsIn.getLast?_column {mark : Char}
    (ends : EndsIn (column ++ spelled) (mark :: token) before)
    (spells : asciiLower spelled = token) (isMark : mark ∈ marks) :
    ∃ final ∈ column.getLast?, final ∈ marks := by
  obtain ⟨⟨longer, whole, spellsLonger⟩, -⟩ := ends
  obtain ⟨final, rest, rfl, lower, spellsRest⟩ := List.map_eq_cons_iff.mp spellsLonger
  have sameLength : spelled.length = rest.length := by
    simpa [asciiLower] using congrArg List.length (spells.trans spellsRest.symm)
  have parts := List.append_inj' (whole.trans (List.append_cons before final rest)) sameLength
  refine ⟨final, by simp [parts.1], ?_⟩
  rw [← lower] at isMark
  rw [eq_of_toLower_mem_marks isMark]
  exact isMark

/-- Where `not in` is found behind a column and `in`, the column ends in `not`. -/
theorem EndsIn.column_of_notIn (ends : EndsIn (column ++ ' ' :: spelled) "not in".toList before)
    (spells : asciiLower spelled = "in".toList) :
    ∃ front word, column = front ++ ' ' :: word ∧ asciiLower word = "not".toList := by
  obtain ⟨⟨longer, whole, spellsLonger⟩, apart⟩ := ends
  obtain space | ⟨symbolic, -⟩ := apart
  · obtain ⟨front, rfl⟩ := List.getLast?_eq_some_iff.mp space
    -- The space within `not in` has to be the one that was written in front of `in`.
    have cut : asciiLower longer = "not".toList ++ " in".toList := spellsLonger
    obtain ⟨word, rest, rfl, spellsWord, spellsRest⟩ := List.map_eq_append_iff.mp cut
    have sameLength : (' ' :: spelled).length = rest.length := by
      have lengths := congrArg List.length spells
      have lengthsRest := congrArg List.length spellsRest
      simp only [asciiLower, List.length_map] at lengths lengthsRest
      rw [List.length_cons, lengths, lengthsRest]
      rfl
    rw [← List.append_assoc] at whole
    have parts := List.append_inj' whole sameLength
    exact ⟨front, word, by simpa using parts.1, spellsWord⟩
  · exact absurd symbolic (by decide)

end

/-! ### Keys with single spaces -/

section

variable {column spelled : List Char} {entry : String × Operator}

/-- An operator behind a neat column and a space is the one that is found. -/
theorem splitNormal_spaced (neat : IsNeat column) (member : entry ∈ operatorTokens)
    (spells : asciiLower spelled = entry.1.toList)
    (plain : entry.1 = "in" → ¬ ∃ front word, column = front ++ ' ' :: word ∧
      asciiLower word = "not".toList) :
    splitNormal (column ++ ' ' :: spelled) operatorTokens = (column, entry.2) := by
  have ends : EndsIn (column ++ ' ' :: spelled) entry.1.toList (column ++ [' ']) :=
    ⟨⟨spelled, by simp, spells⟩, .inl (by simp)⟩
  rw [splitNormal_of_endsIn operatorTokens_apart_spaced member ends ?skips,
    neat.trimEnd_append (areBlanks_nil.cons (by decide))]
  rintro earlier (⟨isNotIn, isIn⟩ | endApart) other found
  · rw [isNotIn] at found
    rw [isIn] at spells
    exact plain isIn (found.column_of_notIn spells)
  · rw [← spells] at endApart
    exact found.not_endApart endApart

/-- An operator of symbols right behind a neat column is the one that is found, if the column ends
in no such symbol. -/
theorem splitNormal_attached (neat : IsNeat column) (member : entry ∈ operatorTokens)
    (symbolic : isSymbolic entry.1.toList = true)
    (plain : ∀ final ∈ column.getLast?, final ∉ marks) :
    splitNormal (column ++ entry.1.toList) operatorTokens = (column, entry.2) := by
  have spells := operatorTokens_lower entry member
  have nonempty : column ≠ [] := by
    obtain ⟨first, rest, rfl, -⟩ := neat.head
    exact List.cons_ne_nil _ _
  have ends : EndsIn (column ++ entry.1.toList) entry.1.toList column :=
    ⟨⟨_, rfl, spells⟩, .inr ⟨symbolic, nonempty⟩⟩
  have trimmed : trimEnd column = column := by
    simpa using neat.trimEnd_append areBlanks_nil
  rw [splitNormal_of_endsIn operatorTokens_apart_attached member ends ?skips, trimmed]
  intro earlier related other found
  obtain longer | endApart := related symbolic
  · obtain ⟨mark, isMark, same⟩ := List.mem_map.mp longer
    rw [← same] at found
    obtain ⟨final, isLast, isMarkToo⟩ := found.getLast?_column spells isMark
    exact plain final isLast isMarkToo
  · rw [← spells] at endApart
    exact found.not_endApart endApart

end

/-! ### Cutting off bytes -/

/-- A text without as many of its last bytes as a token takes. -/
def withoutLastBytes? (key token : List Char) : Option (List Char) :=
  if byteLength token ≤ byteLength key then firstBytes? (byteLength key - byteLength token) key
  else none

/-- The column and the operator of a key whose blanks are single spaces, the operator being cut off
by its bytes. -/
def sliceNormal? (key : List Char) : List (String × Operator) → Option (List Char × Operator)
  | [] => some (key, .compare .equal)
  | (token, operator) :: rest =>
    if token.toList.isSuffixOf (asciiLower key) then
      match withoutLastBytes? key token.toList with
      | none => none
      | some head =>
        if head.getLast? = some ' ' ∨ (isSymbolic token.toList ∧ head ≠ []) then
          some (trimEnd head, operator)
        else sliceNormal? key rest
    else sliceNormal? key rest

/-- The column and the operator of a key, the operator being cut off by its bytes. -/
def sliceKey? (key : String) : Option (String × Operator) :=
  (sliceNormal? (singleSpaced key.toList) operatorTokens).map fun (column, operator) =>
    (String.ofList column, operator)

theorem byteLength_asciiLower (text : List Char) :
    byteLength (asciiLower text) = byteLength text := by
  induction text with
  | nil => rfl
  | cons character rest inductionHypothesis =>
    show character.toLower.utf8Size + byteLength (asciiLower rest) = _
    rw [utf8Size_toLower, inductionHypothesis, byteLength]

/-- What a key ends in, spelled in any case, takes as many bytes as the token. -/
theorem withoutLastBytes?_append {before spelled token : List Char}
    (spells : asciiLower spelled = token) :
    withoutLastBytes? (before ++ spelled) token = some before := by
  rw [withoutLastBytes?, ← spells, byteLength_asciiLower, byteLength_append,
    if_pos (Nat.le_add_left _ _), Nat.add_sub_cancel, firstBytes?_append]

/-- Cutting by bytes never fails, and cuts off just the characters of the operator. -/
theorem sliceNormal?_eq_some (key : List Char) (table : List (String × Operator)) :
    sliceNormal? key table = some (splitNormal key table) := by
  induction table with
  | nil => rfl
  | cons entry rest inductionHypothesis =>
    by_cases found : entry.1.toList.isSuffixOf (asciiLower key) = true
    · obtain ⟨before, spelled, rfl, spells⟩ := isSuffixOf_asciiLower_iff.mp found
      rw [sliceNormal?, splitNormal, columnBefore?, if_pos found, if_pos found, take_before spells,
        withoutLastBytes?_append spells]
      by_cases apart : before.getLast? = some ' ' ∨ (isSymbolic entry.1.toList ∧ before ≠ [])
      · simp only [if_pos apart]
      · simp only [if_neg apart, inductionHypothesis]
    · rw [sliceNormal?, splitNormal, columnBefore?, if_neg found, if_neg found, inductionHypothesis]

/-! ### Filters of keys -/

/-- The filter that an operator makes of an operand. Comparisons and patterns take a single value,
the test of being among values takes a list, and the test of being absent takes anything. -/
inductive Operator.Makes (column : String) : Operator → Operand → Filter → Prop
  | compare {comparison : Comparison} {value : Value} :
    Makes column (.compare comparison) (.single value) (.compare comparison column value)
  | like {pattern : Value} : Makes column .like (.single pattern) (.like column pattern)
  | among {negated : Bool} {values : List Value} :
    Makes column (.among negated) (.list values) (.among negated column values)
  | absent {negated : Bool} {operand : Operand} :
    Makes column (.absent negated) operand (.absent negated column)

theorem Operator.filter?_eq_some_iff {operator : Operator} {column : String} {operand : Operand}
    {filter : Filter} :
    operator.filter? column operand = some filter ↔ operator.Makes column operand filter := by
  constructor
  · intro made
    cases operator <;> cases operand <;> cases made <;> constructor
  · rintro (_ | _ | _ | _) <;> rfl

/-- A key that is not just blanks has a column, whatever operators there are. -/
theorem splitNormal_ne_nil {key : List Char} (neat : IsNeat key)
    (table : List (String × Operator)) : (splitNormal key table).1 ≠ [] := by
  obtain ⟨first, rest, isFirst, noBlank⟩ := neat.head
  induction table with
  | nil => exact isFirst ▸ List.cons_ne_nil _ _
  | cons entry others inductionHypothesis =>
    by_cases found : ∃ before, EndsIn key entry.1.toList before
    · obtain ⟨before, ends⟩ := found
      simp only [splitNormal, columnBefore?_of_endsIn ends]
      obtain ⟨⟨spelled, whole, -⟩, apart⟩ := ends
      refine trimEnd_ne_nil fun areBlanks => ?_
      cases before with
      | nil => simp at apart
      | cons character before =>
        rw [isFirst] at whole
        have blank := areBlanks character List.mem_cons_self
        rw [← (List.cons.inj whole).1, noBlank] at blank
        contradiction
    · simp only [splitNormal, columnBefore?_eq_none (not_exists.mp found)]
      exact inductionHypothesis

/-- The column of a key that is not just blanks has a name. -/
theorem isEmpty_splitKey {key : String} (notBlank : ¬ AreBlanks key.toList) :
    (splitKey key).1.isEmpty = false := by
  have named := splitNormal_ne_nil (isNeat_singleSpaced notBlank) operatorTokens
  simpa [splitKey, String.isEmpty_iff] using named

/-- A key of blanks names no column. -/
theorem splitKey_of_areBlanks {key : String} (areBlanks : AreBlanks key.toList) :
    splitKey key = ("", .compare .equal) := by
  have blanks : singleSpaced key.toList = [] := by
    rw [singleSpaced, words_of_laysOut (.blanks areBlanks)]
    rfl
  rw [splitKey, blanks]
  rfl

/-! ### Keys as they are written -/

/-- A column ends in a space and the word `not`, and begins with another column. -/
def EndsInNot (column front : String) : Prop :=
  ∃ word, column.toList = front.toList ++ ' ' :: word ∧ asciiLower word = "not".toList

/-- What it means that keys are split, and filters are read from them, as they are written. -/
structure ReadsAsWritten (split : String → String × Operator)
    (read : String → Operand → Except FilterFault Filter) : Prop where
  /-- A column and an operator, with blanks between them, within the operator and around both. -/
  spaced : ∀ {key column token : String} {operator : Operator} {lead gap spelled : List Char},
    IsNeat column.toList → (token, operator) ∈ operatorTokens → AreBlanks lead → AreBlanks gap →
    gap ≠ [] → Spells spelled token → key.toList = lead ++ (column.toList ++ (gap ++ spelled)) →
    (token = "in" → ∀ front, ¬ EndsInNot column front) → split key = (column, operator)
  /-- Behind a column that ends in `not`, `in` is a part of `not in`. -/
  negated : ∀ {key column front : String} {lead gap spelled : List Char},
    IsNeat column.toList → AreBlanks lead → AreBlanks gap → gap ≠ [] → Spells spelled "in" →
    key.toList = lead ++ (column.toList ++ (gap ++ spelled)) → EndsInNot column front →
    split key = (front, .among true)
  /-- An operator of symbols right behind a column that ends in none of them. -/
  attached : ∀ {key column token : String} {operator : Operator} {lead trail : List Char},
    IsNeat column.toList → (token, operator) ∈ operatorTokens → isSymbolic token.toList = true →
    (∀ final ∈ column.toList.getLast?, final ∉ marks) → AreBlanks lead → AreBlanks trail →
    key.toList = lead ++ (column.toList ++ token.toList ++ trail) → split key = (column, operator)
  /-- Words that end in no operator. -/
  unmarked : ∀ {key normal : String} {each : List (List Char)}, LaysOut each key.toList →
    normal.toList = [' '].intercalate each →
    (∀ entry ∈ operatorTokens, ∀ before, ¬ EndsIn normal.toList entry.1.toList before) →
    split key = (normal, .compare .equal)
  /-- A key of blanks is refused. -/
  blank : ∀ {key : String} (operand : Operand), AreBlanks key.toList →
    read key operand = .error (.noColumn key)
  /-- Any other key makes the filter of its operator, if there is one of the operand's shape. -/
  made : ∀ {key column : String} {operator : Operator} {operand : Operand} {filter : Filter},
    ¬ AreBlanks key.toList → split key = (column, operator) →
    operator.Makes column operand filter → read key operand = .ok filter
  /-- An operand of another shape is refused. -/
  misshapen : ∀ {key column : String} {operator : Operator} {operand : Operand},
    ¬ AreBlanks key.toList → split key = (column, operator) →
    (∀ filter, ¬ operator.Makes column operand filter) →
    read key operand = .error (.wrongShape key)
  /-- Cutting off the operator by its bytes never fails. -/
  sliced : ∀ key, sliceKey? key = some (split key)

section

variable {key column token : String} {operator : Operator} {lead gap spelled : List Char}

theorem splitKey_eq {rest : List Char}
    (found : splitNormal (singleSpaced key.toList) operatorTokens = (rest, operator))
    (same : column.toList = rest) : splitKey key = (column, operator) := by
  rw [splitKey, found, ← same]
  simp

/-- The words of an operator are put behind the column with a single space. -/
theorem singleSpaced_spelled (neat : IsNeat column.toList) (areBlanks : AreBlanks lead)
    (areBlanksToo : AreBlanks gap) (apart : gap ≠ []) {each : List (List Char)}
    (laid : LaysOut each spelled) (nonempty : each ≠ [])
    (written : key.toList = lead ++ (column.toList ++ (gap ++ spelled))) :
    singleSpaced key.toList = column.toList ++ ' ' :: [' '].intercalate each := by
  obtain ⟨first, rest, rfl⟩ := List.exists_cons_of_ne_nil apart
  have ends : EndsWord (first :: rest ++ spelled) :=
    endsWord_cons (areBlanksToo first List.mem_cons_self)
  rw [written, neat.singleSpaced_append areBlanks ends (laid.behind_blanks areBlanksToo) nonempty]

/-- No operator is spelled by no words. -/
theorem words_ne_nil_of_spells {each : List (List Char)}
    (member : (token, operator) ∈ operatorTokens)
    (spells : asciiLower ([' '].intercalate each) = token.toList) : each ≠ [] := by
  rintro rfl
  have named : ∀ entry ∈ operatorTokens, entry.1.toList ≠ [] := by decide
  exact named _ member spells.symm

end

/-- Keys are split and read as they are written. -/
theorem splitKey_readsAsWritten : ReadsAsWritten splitKey Filter.ofKey where
  spaced := by
    rintro key column token operator lead gap spelled neat member areBlanks areBlanksToo apart
      ⟨each, laid, spells⟩ written plain
    have nonempty := words_ne_nil_of_spells member spells
    have normal := singleSpaced_spelled neat areBlanks areBlanksToo apart laid nonempty written
    refine splitKey_eq ?_ rfl
    rw [normal]
    refine splitNormal_spaced neat member spells fun isIn ⟨front, word, cut, isNot⟩ => ?_
    exact plain isIn (String.ofList front) ⟨word, by rw [cut, String.toList_ofList], isNot⟩
  negated := by
    rintro key column front lead gap spelled neat areBlanks areBlanksToo apart
      ⟨each, laid, spells⟩ written ⟨word, cut, isNot⟩
    have member : ("not in", Operator.among true) ∈ operatorTokens := by decide
    have nonempty : each ≠ [] := by
      rintro rfl
      exact absurd spells (by decide)
    have normal := singleSpaced_spelled neat areBlanks areBlanksToo apart laid nonempty written
    have solid : IsSolid word := isSolid_of_asciiLower (isNot ▸ by decide)
    refine splitKey_eq ?_ rfl
    -- The column's last word, the space and `in` are a spelling of `not in`.
    rw [normal, cut, List.append_assoc, List.cons_append]
    refine splitNormal_spaced (neat.before solid cut) member ?_ fun isIn => absurd isIn (by decide)
    rw [asciiLower_append, isNot]
    exact congrArg ("not".toList ++ ' ' :: ·) spells
  attached := by
    intro key column token operator lead trail neat member symbolic plain areBlanks areBlanksToo
      written
    have solid := operatorTokens_solid _ member symbolic
    refine splitKey_eq ?_ rfl
    rw [written, (neat.append_solid solid).singleSpaced_between areBlanks areBlanksToo]
    exact splitNormal_attached neat member symbolic plain
  unmarked := by
    intro key normal each laid words unended
    refine splitKey_eq ?_ rfl
    rw [singleSpaced, words_of_laysOut laid, ← words]
    exact splitNormal_of_none unended
  blank := by
    intro key operand areBlanks
    rw [Filter.ofKey, splitKey_of_areBlanks areBlanks]
    rfl
  made := by
    intro key column operator operand filter notBlank split makes
    have named := isEmpty_splitKey notBlank
    rw [split] at named
    simp [Filter.ofKey, split, named, Operator.filter?_eq_some_iff.mpr makes]
  misshapen := by
    intro key column operator operand notBlank split unmade
    have named := isEmpty_splitKey notBlank
    rw [split] at named
    have noFilter : operator.filter? column operand = none :=
      Option.eq_none_iff_forall_not_mem.mpr fun filter made =>
        unmade filter (Operator.filter?_eq_some_iff.mp made)
    simp [Filter.ofKey, split, named, noFilter]
  sliced := by
    intro key
    rw [sliceKey?, sliceNormal?_eq_some]
    rfl

/-- Wide blanks and capitals do not keep an operator from being found. -/
theorem splitKey_readsAsWritten_wide :
    splitKey "\u3000first name\u3000\tNOT\u2003In " = ("first name", .among true) ∧
      Filter.ofKey "\u3000first name\u3000\tNOT\u2003In " (.list [.null]) =
        .ok (.among true "first name" [.null]) := by
  have cut : "first name".toList = "first".toList ++ ' ' :: "name".toList := by decide
  have neat : IsNeat "first name".toList := cut ▸ .behind (by decide) (.word (by decide))
  have spells : Spells "NOT\u2003In ".toList "not in" := ⟨_, laysOut_words _, by decide⟩
  have lead : AreBlanks ['\u3000'] := areBlanks_nil.cons (by decide)
  have gap : AreBlanks ['\u3000', '\t'] := (areBlanks_nil.cons (by decide)).cons (by decide)
  have member : ("not in", Operator.among true) ∈ operatorTokens := by decide
  have written : "\u3000first name\u3000\tNOT\u2003In ".toList = ['\u3000'] ++
      ("first name".toList ++ (['\u3000', '\t'] ++ "NOT\u2003In ".toList)) := by decide
  have split := splitKey_readsAsWritten.spaced neat member lead gap (by decide) spells written
    fun isIn => absurd isIn (by decide)
  refine ⟨split, splitKey_readsAsWritten.made (fun areBlanks => ?_) split .among⟩
  exact absurd (areBlanks 'f' (by decide)) (by decide)

end RecordMapper
