/-
This file proves what becomes of the lines within a block. They go to a single statement whatever
they hold, for neither a semicolon nor two dashes mean anything there. But that statement need not
be the block as it is written: blank lines are left out even there, and lines that are unfinished
where the block begins come before its own. The statement has the block's text exactly if neither
happens.
-/

import RecordMapper.Proofs.Migration.Statements

namespace RecordMapper.Migration

open Text

/-! ### Lines within a block -/

/-- The lines of a text that are not blank. -/
def someOf (each : List (List Char)) : List (List Char) :=
  each.filter fun line => ¬ AreBlanks line

/-- The lines within a block, the two markers around them, and all other lines. -/
structure Block where
  before : List (List Char)
  begins : List Char
  inner : List (List Char)
  ends : List Char
  after : List (List Char)

/-- All lines before the one that ends a block. -/
def Block.untilEnd (block : Block) : List (List Char) :=
  block.before ++ block.begins :: block.inner

/-- Lines have a block in them. There is no marker in it, and something that is not blank. -/
structure Block.IsIn (block : Block) (each : List (List Char)) : Prop where
  whole : each = block.before ++ (block.begins :: block.inner ++ block.ends :: block.after)
  begins : IsMarker block.begins "statementbegin"
  ends : IsMarker block.ends "statementend"
  unmarked : ∀ line ∈ block.inner, ∀ directive, ¬ IsMarker line directive
  notBlank : ∃ line ∈ block.inner, ¬ AreBlanks line

section

variable {read each : List (List Char)}

theorem map_line_placedBehind (read each : List (List Char)) :
    (placedBehind read each).map PlacedLine.line = each := by
  induction each generalizing read with
  | nil => rfl
  | cons line rest inductionHypothesis => rw [placedBehind, List.map_cons, inductionHypothesis]

/-- What is before a line behind others are these and a part of the lines. -/
theorem before_of_mem_placedBehind {placed : PlacedLine}
    (member : placed ∈ placedBehind read each) :
    ∃ part rest, each = part ++ placed.line :: rest ∧ placed.before = read ++ part := by
  induction each generalizing read with
  | nil => cases member
  | cons line rest inductionHypothesis =>
    rcases List.mem_cons.mp member with rfl | later
    · exact ⟨[], rest, rfl, (List.append_nil read).symm⟩
    · obtain ⟨part, others, whole, before⟩ := inductionHypothesis later
      exact ⟨line :: part, others, by rw [whole]; rfl, by rw [before]; simp⟩

/-- Lines of which none opens a section leave the section open. -/
theorem sectionAfter_append (unopening : ∀ line ∈ each, (marker? line).bind Marker.opened? = none) :
    sectionAfter (read ++ each) = sectionAfter read := by
  unfold sectionAfter
  rw [List.filterMap_append, List.filterMap_eq_nil_iff.mpr unopening, List.append_nil]

/-- Lines that are no markers leave a block open or not. -/
theorem blockAfter_append (unblocking : ∀ line ∈ each, (marker? line).bind Marker.block? = none) :
    blockAfter (read ++ each) = blockAfter read := by
  unfold blockAfter
  rw [List.filterMap_append, List.filterMap_eq_nil_iff.mpr unblocking, List.append_nil]

/-- Where no line ends a statement, no statement is added, and the lines that belong to one are
unfinished. -/
theorem unfinished_append (goesOn : ∀ placed ∈ placedBehind read each,
    ¬ EndsStatement placed.before placed.line) (opened : Section) :
    endedBehind opened read each = [] ∧
      unfinished (read ++ each) = unfinished read ++
        (placedBehind read each).filter fun placed => IsKept placed.before placed.line := by
  induction each generalizing read with
  | nil => simp [endedBehind, placedBehind]
  | cons line rest inductionHypothesis =>
    obtain ⟨first, others⟩ := List.forall_mem_cons.mp goesOn
    obtain ⟨noneEnded, unended⟩ := inductionHypothesis others
    have firstNone : endedBehind opened read [line] = [] := by
      simp [endedBehind, placedBehind, endedBy?, first]
    rw [← List.singleton_append, endedBehind_append, firstNone, noneEnded, ← List.append_assoc,
      unended, unfinished_append_singleton, if_neg first]
    refine ⟨rfl, ?_⟩
    rw [PlacedLine.group, List.append_assoc]
    by_cases kept : IsKept read line <;> simp [placedBehind, kept]

end

section

variable {block : Block} {each inner : List (List Char)}

namespace Block.IsIn

/-- Behind any of its lines the block is open, and the section is the one before it. -/
theorem isOpen (isIn : block.IsIn each) {part : List (List Char)}
    (inside : part ⊆ block.inner) :
    blockAfter (block.before ++ [block.begins] ++ part) = true ∧
      sectionAfter (block.before ++ [block.begins] ++ part) = sectionAfter block.before := by
  have unmarked {line : List Char} (member : line ∈ part) : marker? line = none :=
    marker?_eq_none.mpr (isIn.unmarked line (inside member))
  have marked : marker? block.begins = some .beginsBlock := isMarker_iff.mp isIn.begins
  rw [blockAfter_append fun line member => by rw [unmarked member]; rfl,
    sectionAfter_append fun line member => by rw [unmarked member]; rfl,
    blockAfter_append_singleton, sectionAfter_append_singleton, marked]
  exact ⟨rfl, rfl⟩

/-- Nothing ends a statement from the beginning of a block to its end. -/
theorem goesOn (isIn : block.IsIn each) :
    ∀ placed ∈ placedBehind block.before (block.begins :: block.inner),
      ¬ EndsStatement placed.before placed.line := by
  have marked : marker? block.begins = some .beginsBlock := isMarker_iff.mp isIn.begins
  intro placed member
  rcases List.mem_cons.mp member with rfl | within
  · rintro (ends | ⟨kept, -⟩)
    · rw [marked] at ends
      cases ends
    · exact not_isKept_of_marker? marked kept
  · obtain ⟨part, rest, whole, behind⟩ := before_of_mem_placedBehind within
    have unmarked : marker? placed.line = none :=
      marker?_eq_none.mpr (isIn.unmarked placed.line (line_mem_of_mem_placedBehind within))
    have inBlock := (isIn.isOpen (whole ▸ List.subset_append_left part _)).1
    rintro (ends | ⟨-, outside, -⟩)
    · rw [unmarked] at ends
      cases ends
    · rw [behind, inBlock] at outside
      cases outside

/-- Within a block the lines that are not blank belong to a statement. -/
theorem map_line_kept (isIn : block.IsIn each) :
    ((placedBehind block.before (block.begins :: block.inner)).filter fun placed =>
      IsKept placed.before placed.line).map PlacedLine.line = someOf block.inner := by
  have marked : marker? block.begins = some .beginsBlock := isMarker_iff.mp isIn.begins
  have notKept : ¬ IsKept block.before block.begins := not_isKept_of_marker? marked
  have kept_iff : ∀ placed ∈ placedBehind (block.before ++ [block.begins]) block.inner,
      decide (IsKept placed.before placed.line) = decide (¬ AreBlanks placed.line) := by
    intro placed member
    obtain ⟨part, rest, whole, behind⟩ := before_of_mem_placedBehind member
    have inBlock := (isIn.isOpen (whole ▸ List.subset_append_left part _)).1
    refine decide_eq_decide.mpr ⟨IsKept.notBlank, fun notBlank => ⟨?_, notBlank, fun _ => ?_⟩⟩
    · exact isIn.unmarked placed.line (line_mem_of_mem_placedBehind member)
    · rw [behind, inBlock]
  rw [placedBehind, List.filter_cons_of_neg (by simpa using notKept),
    List.filter_congr kept_iff, someOf,
    ← map_line_placedBehind (block.before ++ [block.begins]) block.inner, List.filter_map,
    map_line_placedBehind]
  rfl

end Block.IsIn

theorem mem_someOf {line : List Char} : line ∈ someOf inner ↔ line ∈ inner ∧ ¬ AreBlanks line := by
  simp [someOf]

theorem someOf_append (first second : List (List Char)) :
    someOf (first ++ second) = someOf first ++ someOf second :=
  List.filter_append _ _

theorem someOf_eq_nil : someOf inner = [] ↔ ∀ line ∈ inner, AreBlanks line := by
  simp [someOf, List.filter_eq_nil_iff]

theorem someOf_eq_self : someOf inner = inner ↔ ∀ line ∈ inner, ¬ AreBlanks line := by
  simp [someOf, List.filter_eq_self]

/-- A statement has the text of a block exactly if no lines come before those of the block, and no
blank line lies between two others. -/
theorem statementText_eq_iff {more : List (List Char)} (free : ∀ line ∈ more ++ inner, '\n' ∉ line)
    (notBlank : ∀ line ∈ more, ¬ AreBlanks line) (notAllBlank : ∃ line ∈ inner, ¬ AreBlanks line) :
    statementText (more ++ someOf inner) = statementText inner ↔
      more = [] ∧ someOf inner <:+: inner := by
  unfold statementText
  rw [String.ofList_inj, ← trim_terminated, ← trim_terminated]
  constructor
  · intro same
    obtain ⟨front, run, back, rfl, blankFront, blankBack, someRun, first, last⟩ :=
      exists_run_between notAllBlank
    have ofRun : someOf (front ++ (run ++ back)) = someOf run := by
      rw [someOf_append, someOf_append, someOf_eq_nil.mpr blankFront, someOf_eq_nil.mpr blankBack,
        List.append_nil, List.nil_append]
    rw [ofRun] at same ⊢
    rw [trim_terminated_between blankFront blankBack] at same
    -- All lines on the left are not blank, so the pieces show that none of the run is.
    have notBlankLeft : ∀ line ∈ more ++ someOf run, ¬ AreBlanks line := fun line member =>
      (List.mem_append.mp member).elim (notBlank line) fun inRun => (mem_someOf.mp inRun).2
    have someLeft : more ++ someOf run ≠ [] := by
      obtain ⟨line, rest, rfl⟩ := List.exists_cons_of_ne_nil someRun
      exact List.ne_nil_of_mem
        (List.mem_append_right _ (mem_someOf.mpr ⟨List.mem_cons_self, first line rfl⟩))
    have freeLeft : ∀ line ∈ more ++ someOf run, '\n' ∉ line := fun line member =>
      free line (by
        rcases List.mem_append.mp member with inMore | inRun
        · exact List.mem_append_left _ inMore
        · simp [(mem_someOf.mp inRun).1])
    have pieces_eq : (more ++ someOf run).map trim = run.map trim := by
      rw [← map_trim_pieces_trim freeLeft someLeft
          (fun line member => notBlankLeft line (List.mem_of_head? member))
          (fun line member => notBlankLeft line (List.mem_of_getLast? member)), same,
        map_trim_pieces_trim (fun line member => free line (by simp [member])) someRun first last]
    have notBlankRun : ∀ line ∈ run, ¬ AreBlanks line := by
      intro line member blank
      have onRight : trim line ∈ run.map trim := List.mem_map_of_mem member
      rw [← pieces_eq] at onRight
      obtain ⟨other, onLeft, sameTrimmed⟩ := List.mem_map.mp onRight
      rw [trim_of_areBlanks blank] at sameTrimmed
      exact notBlankLeft other onLeft (trim_eq_nil_iff.mp sameTrimmed)
    have whole : someOf run = run := someOf_eq_self.mpr notBlankRun
    rw [whole] at pieces_eq ⊢
    have counted := congrArg List.length pieces_eq
    rw [List.length_map, List.length_map, List.length_append] at counted
    exact ⟨List.length_eq_zero_iff.mp (by omega), front, back, List.append_assoc ..⟩
  · rintro ⟨rfl, front, back, whole⟩
    have counted := congrArg (fun part => (someOf part).length) whole
    have again : someOf (someOf inner) = someOf inner :=
      someOf_eq_self.mpr fun line member => (mem_someOf.mp member).2
    simp only [someOf_append, again, List.length_append] at counted
    have blankFront := someOf_eq_nil.mp (List.length_eq_zero_iff.mp (by omega : _ = 0) :
      someOf front = [])
    have blankBack := someOf_eq_nil.mp (List.length_eq_zero_iff.mp (by omega : _ = 0) :
      someOf back = [])
    rw [List.append_assoc] at whole
    conv_rhs => rw [← whole, trim_terminated_between blankFront blankBack]
    rfl

end

/-! ### The statement of a block -/

/-- What has become of a block in a section, and of the lines before and behind it. -/
structure HoldsBlock (opened : Section) (block : Block) (statement : String)
    (earlier later : List String) : Prop where
  /-- The lines that are unfinished where the block begins come first, and then those of the block
  that are not blank. -/
  made : statement =
    statementText ((unfinished block.before).map PlacedLine.line ++ someOf block.inner)
  /-- The text is that of the block exactly if no lines come first, and no blank line lies between
  two others. -/
  verbatim : statement = statementText block.inner ↔
    unfinished block.before = [] ∧ someOf block.inner <:+: block.inner
  /-- The statements before it keep all other lines from before the block. -/
  before : ∃ kept, keptBehind opened [] block.before = kept ++ unfinished block.before ∧
    KeepsLines earlier kept
  /-- The statements behind it keep the lines from behind the block. -/
  after : KeepsLines later
    (keptBehind opened (block.untilEnd ++ [block.ends]) block.after)

section

variable {source : String} {script : Script} {block : Block} {each : List (List Char)}

theorem Block.IsIn.exists_sectionAfter (isIn : block.IsIn (lines source.toList))
    (parsed : Script.parse source = .ok script) :
    ∃ opened, sectionAfter block.before = some opened := by
  have lawful := (exists_parse_iff source).mp ⟨script, parsed⟩
  obtain ⟨line, member, notBlank⟩ := isIn.notBlank
  obtain ⟨part, rest, whole⟩ := List.append_of_mem member
  obtain ⟨inBlock, sameSection⟩ := isIn.isOpen (whole ▸ List.subset_append_left part _)
  have kept : IsKept (block.before ++ [block.begins] ++ part) line :=
    ⟨isIn.unmarked line member, notBlank, fun _ => inBlock⟩
  have placed := lawful.placed (block.before ++ [block.begins] ++ part) line
    (rest ++ block.ends :: block.after) (by rw [isIn.whole, whole]; simp) kept
  rw [← sectionAfter_ne_none, sameSection] at placed
  exact Option.ne_none_iff_exists'.mp placed

theorem Block.IsIn.endsStatement (isIn : block.IsIn each) (read : List (List Char)) :
    EndsStatement read block.ends :=
  .inl (by rw [isMarker_iff.mp isIn.ends]; rfl)

/-- Where a block ends, its lines have come behind those that were unfinished where it begins. -/
theorem Block.IsIn.map_line_unfinished (isIn : block.IsIn each) :
    (unfinished block.untilEnd).map PlacedLine.line =
      (unfinished block.before).map PlacedLine.line ++ someOf block.inner := by
  rw [Block.untilEnd, (unfinished_append isIn.goesOn .up).2, List.map_append, isIn.map_line_kept]

/-- The statement that ends with a block is the one that is unfinished where it ends. -/
theorem Block.IsIn.endedBehind_ends (isIn : block.IsIn each) {opened : Section}
    (isOpen : sectionAfter block.before = some opened) :
    endedBehind opened block.untilEnd [block.ends] = [unfinished block.untilEnd] := by
  have notKept : ¬ IsKept block.untilEnd block.ends :=
    not_isKept_of_marker? (isMarker_iff.mp isIn.ends)
  have stillOpen : sectionAfter block.untilEnd = some opened := by
    have same := (isIn.isOpen (List.Subset.refl block.inner)).2
    rwa [List.append_assoc, isOpen] at same
  have nonempty : unfinished block.untilEnd ≠ [] := by
    obtain ⟨line, member, notBlank⟩ := isIn.notBlank
    rw [ne_eq, ← List.map_eq_nil_iff (f := PlacedLine.line), isIn.map_line_unfinished]
    exact List.ne_nil_of_mem (List.mem_append_right _ (mem_someOf.mpr ⟨member, notBlank⟩))
  have group : PlacedLine.group ⟨block.untilEnd, block.ends⟩ = unfinished block.untilEnd := by
    rw [PlacedLine.group, if_neg notKept, List.append_nil]
  simp [endedBehind, placedBehind, endedBy?, group, isIn.endsStatement, stillOpen, nonempty]

/-- The groups of lines from before a block, that of the block, and those from behind it. -/
theorem Block.IsIn.groupsBehind (isIn : block.IsIn each) {opened : Section}
    (isOpen : sectionAfter block.before = some opened) :
    groupsBehind opened [] each = endedBehind opened [] block.before ++
      unfinished block.untilEnd ::
        Migration.groupsBehind opened (block.untilEnd ++ [block.ends]) block.after := by
  rw [isIn.whole, groupsBehind_append, List.nil_append, groupsBehind_append,
    (unfinished_append isIn.goesOn opened).1, List.nil_append, ← Block.untilEnd,
    ← List.singleton_append, groupsBehind_append, isIn.endedBehind_ends isOpen,
    List.singleton_append]

/-- A block becomes a single statement of the section that is open, between those from before it and
those from behind it. -/
theorem parse_holdsBlock (parsed : Script.parse source = .ok script)
    (isIn : block.IsIn (lines source.toList)) :
    ∃ opened earlier statement later, sectionAfter block.before = some opened ∧
      script.statements opened = earlier ++ statement :: later ∧
      HoldsBlock opened block statement earlier later := by
  obtain ⟨opened, isOpen⟩ := isIn.exists_sectionAfter parsed
  have free {part : List (List Char)} (inSource : part ⊆ lines source.toList) :
      ∀ line ∈ part, '\n' ∉ line := fun line member => lineFeed_of_mem_lines (inSource member)
  have whole := isIn.whole
  refine ⟨opened, (endedBehind opened [] block.before).map statementOf,
    statementOf (unfinished block.untilEnd),
    (groupsBehind opened (block.untilEnd ++ [block.ends]) block.after).map statementOf, isOpen,
    ?_, ?made, ?verbatim, ?before, ?after⟩
  · rw [statements_of_parse parsed, isIn.groupsBehind isOpen, List.map_append, List.map_cons]
  case made => rw [statementOf, isIn.map_line_unfinished]
  case verbatim =>
    have notBlank : ∀ line ∈ (unfinished block.before).map PlacedLine.line, ¬ AreBlanks line := by
      intro line member
      obtain ⟨placed, inside, rfl⟩ := List.mem_map.mp member
      exact (mem_unfinished inside).1.notBlank
    have inSource : (unfinished block.before).map PlacedLine.line ++ block.inner ⊆
        lines source.toList := by
      refine List.append_subset.mpr ⟨fun line member => ?_, fun line member => ?_⟩
      · obtain ⟨placed, inside, rfl⟩ := List.mem_map.mp member
        rw [whole]
        exact List.mem_append_left _ (line_mem_of_mem_unfinished inside)
      · simp [whole, member]
    rw [statementOf, isIn.map_line_unfinished,
      statementText_eq_iff (free inSource) notBlank isIn.notBlank, List.map_eq_nil_iff]
  case before =>
    have inSource : block.before ⊆ lines source.toList := whole ▸ List.subset_append_left _ _
    have kept := keepsLines_endedBehind (unfinishedIn_nil opened) (free inSource)
    rwa [List.nil_append, unfinishedIn, if_pos isOpen] at kept
  case after =>
    refine keepsLines_groupsBehind ?_ (free ?_)
    · rw [unfinishedIn, unfinished_append_singleton, if_pos (isIn.endsStatement _), ite_self]
    · intro line member
      simp [whole, member]

end

/-! ### Blocks that are not kept -/

/-- A script with a blank line in a block, between two others. -/
def spacedSource : String :=
  "-- +migrate Up\n-- +migrate StatementBegin\nVALUES ('a\n\nb');\n-- +migrate StatementEnd\n"

def spacedBlock : Block where
  before := ["-- +migrate Up".toList]
  begins := "-- +migrate StatementBegin".toList
  inner := ["VALUES ('a".toList, [], "b');".toList]
  ends := "-- +migrate StatementEnd".toList
  after := []

theorem spacedBlock_isIn : spacedBlock.IsIn (lines spacedSource.toList) where
  whole := by decide +kernel
  begins := isMarker_iff.mpr (by decide +kernel)
  ends := isMarker_iff.mpr (by decide +kernel)
  unmarked := fun line member => marker?_eq_none.mp (by revert line; decide +kernel)
  notBlank := by decide +kernel

/-- A script with a block behind a line that has not ended in a semicolon. -/
def mergedSource : String :=
  "-- +migrate Up\nVALUES (1)\n-- +migrate StatementBegin\nVALUES (2);\n-- +migrate StatementEnd\n"

def mergedBlock : Block where
  before := ["-- +migrate Up".toList, "VALUES (1)".toList]
  begins := "-- +migrate StatementBegin".toList
  inner := ["VALUES (2);".toList]
  ends := "-- +migrate StatementEnd".toList
  after := []

theorem mergedBlock_isIn : mergedBlock.IsIn (lines mergedSource.toList) where
  whole := by decide +kernel
  begins := isMarker_iff.mpr (by decide +kernel)
  ends := isMarker_iff.mpr (by decide +kernel)
  unmarked := fun line member => marker?_eq_none.mp (by revert line; decide +kernel)
  notBlank := by decide +kernel

/-- Of the block with a blank line there is a statement without it. -/
theorem parse_holdsBlock_spaced :
    Script.parse spacedSource = .ok ⟨["VALUES ('a\nb');"], []⟩ ∧
      spacedBlock.IsIn (lines spacedSource.toList) ∧
      ∃ opened earlier statement later, sectionAfter spacedBlock.before = some opened ∧
        Script.statements ⟨["VALUES ('a\nb');"], []⟩ opened = earlier ++ statement :: later ∧
        HoldsBlock opened spacedBlock statement earlier later :=
  have parsed : Script.parse spacedSource = .ok ⟨["VALUES ('a\nb');"], []⟩ := by decide +kernel
  ⟨parsed, spacedBlock_isIn, parse_holdsBlock parsed spacedBlock_isIn⟩

/-- Neither block is a statement as it is written. -/
theorem blocks_not_verbatim :
    (spacedBlock.IsIn (lines spacedSource.toList) ∧
      ∃ script, Script.parse spacedSource = .ok script ∧
        ∀ opened, statementText spacedBlock.inner ∉ script.statements opened) ∧
    (mergedBlock.IsIn (lines mergedSource.toList) ∧
      ∃ script, Script.parse mergedSource = .ok script ∧
        ∀ opened, statementText mergedBlock.inner ∉ script.statements opened) := by
  refine ⟨⟨spacedBlock_isIn, ⟨["VALUES ('a\nb');"], []⟩, by decide +kernel, ?_⟩,
    mergedBlock_isIn, ⟨["VALUES (1)\nVALUES (2);"], []⟩, by decide +kernel, ?_⟩
  · rintro (_ | _) <;> decide +kernel
  · rintro (_ | _) <;> decide +kernel

end RecordMapper.Migration
