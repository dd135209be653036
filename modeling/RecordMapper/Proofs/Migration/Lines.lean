/-
This file says what the lines of a migration script are. They are the pieces of its text between
line feeds. A line is a marker if, apart from blanks, it begins with two dashes and `+migrate` in
any case; the word behind that is its directive. What markers stand before a line decides which
section and whether a block is open where it stands, and with that whether it belongs to a statement
and whether it ends one. All of this is said of a line and the lines before it, without regard to
how a script is read; reading it keeps to this.
-/

import RecordMapper.Migration.Script
import RecordMapper.Proofs.Text.Lines
import RecordMapper.Proofs.Text.LowerCase

namespace RecordMapper.Migration

open Text

/-! ### Lines of a text -/

/-- A line without the carriage return that stands at its end. -/
def withoutReturn (line : List Char) : List Char :=
  if line.getLast? = some '\r' then line.dropLast else line

theorem withoutReturn_subset (line : List Char) : withoutReturn line ⊆ line := by
  unfold withoutReturn
  split
  · exact List.dropLast_subset line
  · exact List.Subset.refl line

theorem trim_withoutReturn (line : List Char) : trim (withoutReturn line) = trim line := by
  unfold withoutReturn
  split
  · rename_i ends
    have whole : line = line.dropLast ++ ['\r'] := (List.dropLast_append_getLast? _ ends).symm
    conv_rhs => rw [whole]
    exact (trim_append_of_blanks areBlanks_nil (by decide)).symm
  · rfl

/-- The lines of a text are its pieces between line feeds. The last one has not been ended, so that
it keeps a carriage return, and is no line if there is nothing in it. -/
theorem exists_lines_eq (text : List Char) : ∃ ended last,
    pieces (· == '\n') text = ended ++ [last] ∧
      lines text = ended.map withoutReturn ++ if last.isEmpty then [] else [last] := by
  have nonempty := pieces_ne_nil (· == '\n') text
  refine ⟨_, _, (List.dropLast_append_getLast nonempty).symm, ?_⟩
  unfold lines
  simp only [List.getLast?_eq_some_getLast nonempty]
  split
  · exact (List.append_nil _).symm
  · rfl

/-- No line has a line feed in it. -/
theorem lineFeed_of_mem_lines {text line : List Char} (member : line ∈ lines text) :
    '\n' ∉ line := by
  have free {piece : List Char} (inPieces : piece ∈ pieces (· == '\n') text) : '\n' ∉ piece :=
    fun feed => by simpa using separates_of_mem_pieces inPieces '\n' feed
  obtain ⟨ended, last, cut, whole⟩ := exists_lines_eq text
  rw [cut] at free
  rw [whole] at member
  rcases List.mem_append.mp member with inEnded | isLast
  · obtain ⟨piece, inPieces, rfl⟩ := List.mem_map.mp inEnded
    exact fun feed => free (List.mem_append_left _ inPieces) (withoutReturn_subset piece feed)
  · split at isLast
    · cases isLast
    · exact free (List.mem_append_right _ isLast)

/-- The lines of a text are its pieces but for blanks, if those of blanks are left out. -/
theorem filter_map_trim_lines (text : List Char) :
    ((lines text).map trim).filter (· ≠ []) =
      ((pieces (· == '\n') text).map trim).filter (· ≠ []) := by
  obtain ⟨ended, last, cut, whole⟩ := exists_lines_eq text
  have trimmed : (ended.map withoutReturn).map trim = ended.map trim := by
    rw [List.map_map]
    exact List.map_congr_left fun piece _ => trim_withoutReturn piece
  rw [cut, whole, List.map_append, List.map_append, trimmed, List.filter_append,
    List.filter_append]
  refine congrArg _ ?_
  split
  · rename_i isEmpty
    rw [List.isEmpty_iff.mp isEmpty]
    simp [trim_of_areBlanks areBlanks_nil]
  · rfl

/-! ### Markers -/

/-- A line is a marker with a directive. The directive is the first word behind `+migrate`, in lower
case, and is empty if there is none. -/
def IsMarker (line : List Char) (directive : String) : Prop :=
  ∃ before gap keyword rest, AreBlanks before ∧ AreBlanks gap ∧
    line = before ++ '-' :: '-' :: (gap ++ (keyword ++ rest)) ∧
    asciiLower keyword = "+migrate".toList ∧
    directive = String.ofList ((words (asciiLower rest)).headD [])

/-- What a marker says. -/
inductive Marker
  | opens (opened : Section)
  | beginsBlock
  | endsBlock
  | unknown (directive : String)
  deriving DecidableEq

/-- What a marker with a directive says. -/
def Marker.ofDirective (directive : String) : Marker :=
  if directive = "up" then .opens .up
  else if directive = "down" then .opens .down
  else if directive = "statementbegin" then .beginsBlock
  else if directive = "statementend" then .endsBlock
  else .unknown directive

/-- What a line says as a marker; other lines say nothing. -/
def marker? (line : List Char) : Option Marker :=
  (directive? (trim line)).map Marker.ofDirective

section

variable {line : List Char} {directive : String}

/-- The directive of a text is what its marker asks for. -/
theorem directive?_eq_some {text : List Char} : directive? text = some directive ↔
    ∃ comment rest, text = '-' :: '-' :: comment ∧
      asciiLower (trimStart comment) = "+migrate".toList ++ rest ∧
      directive = String.ofList ((words rest).headD []) := by
  unfold directive?
  simp only [Option.bind_eq_bind, Option.bind_eq_some_iff, withoutOpening_eq_some, Option.pure_def]
  constructor
  · rintro ⟨comment, opened, rest, keyed, equal⟩
    exact ⟨comment, rest, opened, keyed, (Option.some_inj.mp equal).symm⟩
  · rintro ⟨comment, rest, opened, keyed, equal⟩
    exact ⟨comment, opened, rest, keyed, congrArg some equal.symm⟩

/-- A line has a directive if it is a marker with it. -/
theorem directive?_trim : directive? (trim line) = some directive ↔ IsMarker line directive := by
  rw [directive?_eq_some]
  constructor
  · rintro ⟨comment, rest, opened, keyed, rfl⟩
    obtain ⟨before, after, areBlanks, areBlanksToo, whole⟩ := exists_blanks_around line
    obtain ⟨gap, areBlanksBetween, split⟩ := exists_blanks_before comment
    obtain ⟨keyword, behind, cut, keyedOpening, rfl⟩ := List.map_eq_append_iff.mp keyed
    refine ⟨before, gap, keyword, behind ++ after, areBlanks, areBlanksBetween, ?_, keyedOpening,
      ?_⟩
    · rw [whole, opened, split, cut]
      simp
    · rw [asciiLower_append, words_append_blanks areBlanksToo.asciiLower]
      rfl
  · rintro ⟨before, gap, keyword, rest, areBlanks, areBlanksBetween, rfl, keyed, rfl⟩
    have solid : IsSolid keyword := isSolid_of_asciiLower (keyed ▸ by decide)
    -- Behind the keyword only blanks at the end of the line are cut off.
    obtain ⟨after, areBlanksToo, whole⟩ := exists_blanks_behind rest
    have kept : trimEnd (keyword ++ rest) = keyword ++ trimEnd rest := by
      obtain ⟨front, last, rfl⟩ := (List.eq_nil_or_concat' keyword).resolve_left solid.1
      rw [List.append_assoc, List.singleton_append,
        trimEnd_append_cons (solid.2 last (by simp)), List.append_assoc, List.singleton_append]
    have notBlank : ¬ AreBlanks (keyword ++ rest) := by
      intro blank
      rw [trimEnd_of_areBlanks blank] at kept
      exact solid.1 (List.append_eq_nil_iff.mp kept.symm).1
    have sameWords : words (asciiLower rest) = words (asciiLower (trimEnd rest)) := by
      calc words (asciiLower rest)
          = words (asciiLower (trimEnd rest) ++ asciiLower after) := by
            rw [← asciiLower_append, ← whole]
        _ = words (asciiLower (trimEnd rest)) := words_append_blanks areBlanksToo.asciiLower
    refine ⟨gap ++ (keyword ++ trimEnd rest), asciiLower (trimEnd rest), ?_, ?_, ?_⟩
    · rw [trim_append_cons (by decide), trimStart_of_areBlanks areBlanks, List.nil_append,
        ← List.cons_append, trimEnd_append_of_notBlank notBlank, kept]
      rfl
    · rw [trimStart_append_of_blanks areBlanksBetween, trimStart_of_solid solid, asciiLower_append,
        keyed]
    · rw [sameWords]

/-- Two markers that say the same have the same directive. -/
theorem Marker.ofDirective_injective : Function.Injective Marker.ofDirective := by
  intro first second same
  unfold Marker.ofDirective at same
  grind

/-- A line says what its directive says. -/
theorem isMarker_iff : IsMarker line directive ↔ marker? line = some (.ofDirective directive) := by
  rw [← directive?_trim, marker?, Option.map_eq_some_iff]
  constructor
  · exact fun found => ⟨directive, found, rfl⟩
  · rintro ⟨other, found, same⟩
    rwa [← Marker.ofDirective_injective same]

theorem marker?_eq_none : marker? line = none ↔ ∀ directive, ¬ IsMarker line directive := by
  rw [marker?, Option.map_eq_none_iff, Option.eq_none_iff_forall_ne_some]
  exact forall_congr' fun directive => not_congr directive?_trim

/-- A line that says something is a marker with some directive. -/
theorem exists_isMarker {marker : Marker} (found : marker? line = some marker) :
    ∃ directive, marker = .ofDirective directive ∧ IsMarker line directive := by
  obtain ⟨directive, read, rfl⟩ := Option.map_eq_some_iff.mp found
  exact ⟨directive, rfl, directive?_trim.mp read⟩

end

/-! ### What is open behind lines -/

/-- The section that a marker opens. -/
def Marker.opened? : Marker → Option Section
  | .opens opened => some opened
  | _ => none

/-- Whether a marker begins a block, if it begins or ends one. -/
def Marker.block? : Marker → Option Bool
  | .beginsBlock => some true
  | .endsBlock => some false
  | _ => none

/-- The section that is open behind lines: that of the latest marker that opens one. -/
def sectionAfter (read : List (List Char)) : Option Section :=
  (read.filterMap fun line => (marker? line).bind Marker.opened?).getLast?

/-- Whether a block is open behind lines: the latest marker that begins or ends one begins it. -/
def blockAfter (read : List (List Char)) : Bool :=
  (read.filterMap fun line => (marker? line).bind Marker.block?).getLast?.getD false

/-! ### Lines of statements -/

/-- A line behind others belongs to a statement: it is no marker and not blank, and begins with two
dashes only if a block is open. -/
structure IsKept (read : List (List Char)) (line : List Char) : Prop where
  unmarked : ∀ directive, ¬ IsMarker line directive
  notBlank : ¬ AreBlanks line
  noComment : ['-', '-'] <+: trim line → blockAfter read = true

instance (read : List (List Char)) (line : List Char) : Decidable (IsKept read line) :=
  decidable_of_iff (marker? line = none ∧ ¬ AreBlanks line ∧
      (['-', '-'] <+: trim line → blockAfter read = true))
    ⟨fun ⟨unmarked, notBlank, noComment⟩ => ⟨marker?_eq_none.mp unmarked, notBlank, noComment⟩,
      fun kept => ⟨marker?_eq_none.mpr kept.unmarked, kept.notBlank, kept.noComment⟩⟩

/-- Whether the statement before a marker ends with it. -/
def Marker.ends : Marker → Bool
  | .opens _ | .endsBlock => true
  | .beginsBlock | .unknown _ => false

/-- A line behind others ends a statement: it is a marker that does, or it belongs to a statement
outside of blocks and ends in a semicolon. -/
def EndsStatement (read : List (List Char)) (line : List Char) : Prop :=
  (marker? line).any Marker.ends = true ∨
    (IsKept read line ∧ blockAfter read = false ∧ (trim line).getLast? = some ';')

instance (read : List (List Char)) (line : List Char) : Decidable (EndsStatement read line) :=
  inferInstanceAs (Decidable (_ ∨ _))

section

variable {read : List (List Char)} {line : List Char}

theorem IsKept.marker? (kept : IsKept read line) : marker? line = none :=
  marker?_eq_none.mpr kept.unmarked

theorem not_isKept_of_marker? {marker : Marker} (marked : Migration.marker? line = some marker) :
    ¬ IsKept read line := fun kept => by
  rw [kept.marker?] at marked
  cases marked

theorem sectionAfter_append_singleton (read : List (List Char)) (line : List Char) :
    sectionAfter (read ++ [line]) =
      ((marker? line).bind Marker.opened?).or (sectionAfter read) := by
  unfold sectionAfter
  rw [List.filterMap_append, List.getLast?_append]
  cases said : (Migration.marker? line).bind Marker.opened? <;> simp [said]

theorem blockAfter_append_singleton (read : List (List Char)) (line : List Char) :
    blockAfter (read ++ [line]) =
      ((marker? line).bind Marker.block?).getD (blockAfter read) := by
  unfold blockAfter
  rw [List.filterMap_append, List.getLast?_append]
  cases said : (Migration.marker? line).bind Marker.block? <;> simp [said]

/-- A section is open behind lines if one of them opens a section. -/
theorem sectionAfter_ne_none : sectionAfter read ≠ none ↔
    ∃ line ∈ read, IsMarker line "up" ∨ IsMarker line "down" := by
  have opens_iff (line : List Char) : (∃ opened, Migration.marker? line = some (.opens opened)) ↔
      IsMarker line "up" ∨ IsMarker line "down" := by
    rw [isMarker_iff, isMarker_iff]
    constructor
    · rintro ⟨_ | _, marked⟩
      · exact .inl marked
      · exact .inr marked
    · rintro (marked | marked)
      · exact ⟨.up, marked⟩
      · exact ⟨.down, marked⟩
  have says_iff (line : List Char) : ((Migration.marker? line).bind Marker.opened? ≠ none) ↔
      ∃ opened, Migration.marker? line = some (.opens opened) := by
    cases Migration.marker? line with
    | none => simp
    | some marker => cases marker <;> simp [Marker.opened?]
  unfold sectionAfter
  rw [ne_eq, List.getLast?_eq_none_iff, List.filterMap_eq_nil_iff]
  simp only [Classical.not_forall, exists_prop, says_iff, opens_iff]

end

end RecordMapper.Migration
