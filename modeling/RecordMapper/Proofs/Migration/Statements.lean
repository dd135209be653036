/-
This file proves that the statements of a script keep its lines. Each line is taken with all lines
before it: they decide whether it belongs to a statement, to which section, and whether the
statement ends with it. The lines that belong to a section thus fall into groups, and every group is
a statement. What is pending while a script is read always is the group that has not ended, so no
line is lost, comes twice, changes places or ends up in the other section.
-/

import RecordMapper.Proofs.Migration.Acceptance

namespace RecordMapper.Migration

open Text

/-! ### Lines in their places -/

/-- A line of a script with the lines before it. -/
structure PlacedLine where
  before : List (List Char)
  line : List Char
  deriving DecidableEq

/-- Lines behind others, each with all that are before it. -/
def placedBehind (read : List (List Char)) : List (List Char) → List PlacedLine
  | [] => []
  | line :: rest => ⟨read, line⟩ :: placedBehind (read ++ [line]) rest

/-- Those among lines behind others that belong to the statements of a section: the section is the
one of the latest marker before them. -/
def keptBehind (opened : Section) (read each : List (List Char)) : List PlacedLine :=
  (placedBehind read each).filter fun placed =>
    IsKept placed.before placed.line ∧ sectionAfter placed.before = some opened

/-- The lines of the statement that has begun among lines and has not ended. -/
def unfinished (read : List (List Char)) : List PlacedLine :=
  ((placedBehind [] read).rtakeWhile fun placed => ¬ EndsStatement placed.before placed.line).filter
    fun placed => IsKept placed.before placed.line

/-- The lines of a section's statement that has begun among lines and has not ended. -/
def unfinishedIn (opened : Section) (read : List (List Char)) : List PlacedLine :=
  if sectionAfter read = some opened then unfinished read else []

/-- The lines of the statement that has not ended before a line, with this line if it belongs to
it. -/
def PlacedLine.group (placed : PlacedLine) : List PlacedLine :=
  unfinished placed.before ++ if IsKept placed.before placed.line then [placed] else []

/-- The lines of the statement that ends with a line, if one of a section does. -/
def endedBy? (opened : Section) (placed : PlacedLine) : Option (List PlacedLine) :=
  if EndsStatement placed.before placed.line ∧ sectionAfter placed.before = some opened ∧
      placed.group ≠ [] then some placed.group
  else none

/-- The lines of each statement of a section that ends among lines behind others. -/
def endedBehind (opened : Section) (read each : List (List Char)) : List (List PlacedLine) :=
  (placedBehind read each).filterMap (endedBy? opened)

/-- The lines of each statement of a section that ends among lines behind others or with them. -/
def groupsBehind (opened : Section) (read each : List (List Char)) : List (List PlacedLine) :=
  endedBehind opened read each ++ [unfinishedIn opened (read ++ each)].filter (· ≠ [])

/-- The statement that lines make: they are joined by line feeds, and nothing but the blanks around
the whole is cut off. -/
def statementText (each : List (List Char)) : String :=
  String.ofList (trim (['\n'].intercalate each))

/-- The statement that lines in their places make. -/
def statementOf (group : List PlacedLine) : String :=
  statementText (group.map PlacedLine.line)

/-- Lines in their places are those of a statement. -/
structure IsGroup (group : List PlacedLine) : Prop where
  nonempty : group ≠ []
  kept : ∀ placed ∈ group, IsKept placed.before placed.line
  /-- Outside of blocks only the last one ends in a semicolon. -/
  single : ∀ placed ∈ group.dropLast, blockAfter placed.before = false →
    (trim placed.line).getLast? ≠ some ';'

/-- Statements keep lines in their places. -/
structure KeepsLines (statements : List String) (kept : List PlacedLine) : Prop where
  /-- The lines of the statements that are not blank are these, but for blanks at their ends. -/
  same : ((statements.flatMap fun statement => lines statement.toList).map trim).filter (· ≠ []) =
    kept.map fun placed => trim placed.line
  trimmed : ∀ statement ∈ statements, statement ≠ "" ∧ trim statement.toList = statement.toList
  /-- Every statement has its own of the lines. -/
  grouped : ∃ groups : List (List PlacedLine), kept = groups.flatten ∧
    statements = groups.map statementOf ∧ ∀ group ∈ groups, IsGroup group

section

variable {opened : Section} {read : List (List Char)} {line : List Char}

theorem placedBehind_append (read first second : List (List Char)) :
    placedBehind read (first ++ second) =
      placedBehind read first ++ placedBehind (read ++ first) second := by
  induction first generalizing read with
  | nil => simp [placedBehind]
  | cons line rest inductionHypothesis => simp [placedBehind, inductionHypothesis]

theorem line_mem_of_mem_placedBehind {each : List (List Char)} {placed : PlacedLine}
    (member : placed ∈ placedBehind read each) : placed.line ∈ each := by
  induction each generalizing read with
  | nil => cases member
  | cons line rest inductionHypothesis =>
    rcases List.mem_cons.mp member with rfl | later
    · exact List.mem_cons_self
    · exact List.mem_cons_of_mem _ (inductionHypothesis later)

theorem keptBehind_cons (opened : Section) (read : List (List Char)) (line : List Char)
    (rest : List (List Char)) :
    keptBehind opened read (line :: rest) =
      keptBehind opened read [line] ++ keptBehind opened (read ++ [line]) rest := by
  rw [keptBehind, keptBehind, keptBehind, ← List.filter_append, ← placedBehind_append]
  rfl

theorem endedBehind_append (opened : Section) (read first second : List (List Char)) :
    endedBehind opened read (first ++ second) =
      endedBehind opened read first ++ endedBehind opened (read ++ first) second := by
  rw [endedBehind, placedBehind_append, List.filterMap_append]
  rfl

theorem groupsBehind_append (opened : Section) (read first second : List (List Char)) :
    groupsBehind opened read (first ++ second) =
      endedBehind opened read first ++ groupsBehind opened (read ++ first) second := by
  rw [groupsBehind, endedBehind_append, groupsBehind, List.append_assoc, List.append_assoc]

@[simp]
theorem unfinishedIn_nil (opened : Section) : unfinishedIn opened [] = [] :=
  ite_self _

/-- A line that ends a statement leaves none unfinished; any other one goes to the unfinished one if
it belongs to a statement. -/
theorem unfinished_append_singleton (read : List (List Char)) (line : List Char) :
    unfinished (read ++ [line]) =
      if EndsStatement read line then [] else PlacedLine.group ⟨read, line⟩ := by
  have added : placedBehind [] (read ++ [line]) = placedBehind [] read ++ [⟨read, line⟩] :=
    placedBehind_append [] read [line]
  unfold PlacedLine.group unfinished
  rw [added]
  by_cases closing : EndsStatement read line
  · rw [if_pos closing, List.rtakeWhile_concat_neg _ _ _ (by simpa using closing)]
    rfl
  · rw [if_neg closing, List.rtakeWhile_concat_pos _ _ _ (by simpa using closing),
      List.filter_append]
    simp [List.filter_cons]

/-- A line with which no statement ends leaves the section open. -/
theorem sectionAfter_of_not_endsStatement (goesOn : ¬ EndsStatement read line) :
    sectionAfter (read ++ [line]) = sectionAfter read := by
  rw [sectionAfter_append_singleton]
  cases marked : marker? line with
  | none => rfl
  | some marker =>
    cases marker with
    | opens opened => exact absurd (.inl (by rw [marked]; rfl)) goesOn
    | beginsBlock | endsBlock | unknown => rfl

theorem mem_unfinished {placed : PlacedLine} (member : placed ∈ unfinished read) :
    IsKept placed.before placed.line ∧ ¬ EndsStatement placed.before placed.line := by
  obtain ⟨inRun, kept⟩ := List.mem_filter.mp member
  have goesOn := List.mem_rtakeWhile_imp inRun
  exact ⟨of_decide_eq_true kept, of_decide_eq_true goesOn⟩

theorem line_mem_of_mem_unfinished {placed : PlacedLine} (member : placed ∈ unfinished read) :
    placed.line ∈ read :=
  line_mem_of_mem_placedBehind
    ((List.rtakeWhile_suffix _ _).subset (List.mem_filter.mp member).1)

/-- The lines of the statement that has not ended are those of a statement. -/
theorem isGroup_unfinished (nonempty : unfinished read ≠ []) : IsGroup (unfinished read) := by
  refine ⟨nonempty, fun placed member => (mem_unfinished member).1,
    fun placed member outside ends => ?_⟩
  obtain ⟨kept, goesOn⟩ := mem_unfinished (List.dropLast_subset _ member)
  exact goesOn (.inr ⟨kept, outside, ends⟩)

/-- With one more line they still are. -/
theorem PlacedLine.isGroup (placed : PlacedLine) (nonempty : placed.group ≠ []) :
    IsGroup placed.group := by
  unfold PlacedLine.group at nonempty ⊢
  split_ifs at nonempty ⊢ with kept
  · refine ⟨nonempty, fun other member => ?_, fun other member outside ends => ?_⟩
    · rcases List.mem_append.mp member with inside | last
      · exact (mem_unfinished inside).1
      · rwa [List.mem_singleton.mp last]
    · rw [List.dropLast_concat] at member
      obtain ⟨keptOther, goesOn⟩ := mem_unfinished member
      exact goesOn (.inr ⟨keptOther, outside, ends⟩)
  · rw [List.append_nil] at nonempty ⊢
    exact isGroup_unfinished nonempty

theorem isGroup_of_mem_groupsBehind {each : List (List Char)} {group : List PlacedLine}
    (member : group ∈ groupsBehind opened read each) : IsGroup group := by
  rcases List.mem_append.mp member with ended | left
  · obtain ⟨placed, -, found⟩ := List.mem_filterMap.mp ended
    unfold endedBy? at found
    split_ifs at found with ending
    cases found
    exact placed.isGroup ending.2.2
  · obtain ⟨inSingle, nonempty⟩ := List.mem_filter.mp left
    rw [List.mem_singleton] at inSingle
    have nonemptyGroup : group ≠ [] := of_decide_eq_true nonempty
    rw [inSingle, unfinishedIn] at nonemptyGroup ⊢
    split_ifs at nonemptyGroup ⊢
    · exact isGroup_unfinished nonemptyGroup
    · exact absurd rfl nonemptyGroup

/-- What a line adds to a section goes to the statement that ends with it, or else to the one that
has not ended. -/
theorem unfinishedIn_append_kept (opened : Section) (read : List (List Char)) (line : List Char) :
    unfinishedIn opened read ++ keptBehind opened read [line] =
      (endedBehind opened read [line]).flatten ++ unfinishedIn opened (read ++ [line]) := by
  have added : keptBehind opened read [line] =
      if sectionAfter read = some opened ∧ IsKept read line then [⟨read, line⟩] else [] := by
    by_cases kept : IsKept read line <;> by_cases isOpen : sectionAfter read = some opened <;>
      simp [keptBehind, placedBehind, kept, isOpen]
  have ended : endedBehind opened read [line] = (endedBy? opened ⟨read, line⟩).toList := by
    unfold endedBehind placedBehind placedBehind
    cases found : endedBy? opened ⟨read, line⟩ <;> simp [found]
  rw [added, ended]
  unfold unfinishedIn endedBy?
  rw [unfinished_append_singleton]
  by_cases closing : EndsStatement read line
  · by_cases isOpen : sectionAfter read = some opened
    · have group : unfinished read ++ (if IsKept read line then [⟨read, line⟩] else []) =
          PlacedLine.group ⟨read, line⟩ := rfl
      simp only [closing, isOpen, if_true, true_and, ite_self, List.append_nil, group]
      split_ifs with unended
      · simp
      · rw [not_ne_iff] at unended
        simp [unended]
    · simp [closing, isOpen]
  · rw [sectionAfter_of_not_endsStatement closing]
    by_cases isOpen : sectionAfter read = some opened <;> simp [closing, isOpen, PlacedLine.group]

/-- The lines of a section are those of its statements that have ended, and the unfinished ones. -/
theorem flatten_endedBehind (opened : Section) (read each : List (List Char)) :
    (endedBehind opened read each).flatten ++ unfinishedIn opened (read ++ each) =
      unfinishedIn opened read ++ keptBehind opened read each := by
  induction each generalizing read with
  | nil => simp [endedBehind, keptBehind, placedBehind]
  | cons line rest inductionHypothesis =>
    rw [← List.singleton_append, endedBehind_append, List.flatten_append, List.append_assoc,
      ← List.append_assoc read, inductionHypothesis, ← List.append_assoc,
      ← unfinishedIn_append_kept, List.append_assoc, List.singleton_append, ← keptBehind_cons]

/-- The lines of a section fall into groups. -/
theorem flatten_groupsBehind (opened : Section) (read each : List (List Char)) :
    (groupsBehind opened read each).flatten =
      unfinishedIn opened read ++ keptBehind opened read each := by
  rw [groupsBehind, List.flatten_append, ← flatten_endedBehind]
  by_cases finished : unfinishedIn opened (read ++ each) = [] <;> simp [finished]

end

/-! ### Statements of lines -/

section

variable {each : List (List Char)}

/-- The statement of lines that are not blank has the same lines but for blanks at their ends. -/
theorem filter_lines_statementText (nonempty : each ≠ [])
    (notBlank : ∀ line ∈ each, ¬ AreBlanks line) (free : ∀ line ∈ each, '\n' ∉ line) :
    ((lines (statementText each).toList).map trim).filter (· ≠ []) = each.map trim := by
  rw [filter_map_trim_lines, statementText, String.toList_ofList, ← trim_terminated,
    map_trim_pieces_trim free nonempty
      (fun line member => notBlank line (List.mem_of_head? member))
      (fun line member => notBlank line (List.mem_of_getLast? member)),
    List.filter_eq_self]
  rintro trimmed member
  obtain ⟨line, inEach, rfl⟩ := List.mem_map.mp member
  simpa [trim_eq_nil_iff] using notBlank line inEach

theorem trim_terminated_eq_nil_iff (notBlank : ∀ line ∈ each, ¬ AreBlanks line) :
    trim (terminated each) = [] ↔ each = [] := by
  rw [trim_eq_nil_iff, areBlanks_terminated_iff]
  constructor
  · exact fun blank => List.eq_nil_iff_forall_not_mem.mpr fun line member =>
      notBlank line member (blank line member)
  · rintro rfl
    exact List.forall_mem_nil _

/-- The statements of groups keep their lines. -/
theorem keepsLines_of_groups {groups : List (List PlacedLine)}
    (areGroups : ∀ group ∈ groups, IsGroup group)
    (free : ∀ placed ∈ groups.flatten, '\n' ∉ placed.line) :
    KeepsLines (groups.map statementOf) groups.flatten := by
  have notBlank {group : List PlacedLine} (member : group ∈ groups) :
      ∀ line ∈ group.map PlacedLine.line, ¬ AreBlanks line := by
    intro line inGroup
    obtain ⟨placed, inside, rfl⟩ := List.mem_map.mp inGroup
    exact ((areGroups group member).kept placed inside).notBlank
  refine ⟨?_, fun statement member => ?_, groups, rfl, rfl, areGroups⟩
  · induction groups with
    | nil => rfl
    | cons group rest inductionHypothesis =>
      obtain ⟨isGroup, areGroupsRest⟩ := List.forall_mem_cons.mp areGroups
      rw [List.flatten_cons] at free
      have freeGroup : ∀ line ∈ group.map PlacedLine.line, '\n' ∉ line := by
        intro line member
        obtain ⟨placed, inGroup, rfl⟩ := List.mem_map.mp member
        exact free placed (List.mem_append_left _ inGroup)
      have first := filter_lines_statementText (by simpa using isGroup.nonempty)
        (notBlank List.mem_cons_self) freeGroup
      have others := inductionHypothesis areGroupsRest
        (fun placed member => free placed (List.mem_append_right _ member))
        (fun member => notBlank (List.mem_cons_of_mem _ member))
      rw [List.map_cons, List.flatMap_cons, List.map_append, List.filter_append, others,
        statementOf, first, List.flatten_cons, List.map_append, List.map_map]
      rfl
  · obtain ⟨group, inGroups, rfl⟩ := List.mem_map.mp member
    have notBlank : trim (['\n'].intercalate (group.map PlacedLine.line)) ≠ [] := by
      rw [← trim_terminated, ne_eq, trim_terminated_eq_nil_iff (notBlank inGroups),
        List.map_eq_nil_iff]
      exact (areGroups group inGroups).nonempty
    refine ⟨fun empty => notBlank ?_, ?_⟩
    · rw [statementOf, statementText, String.ofList_eq_empty_iff] at empty
      exact empty
    · rw [statementOf, statementText, String.toList_ofList]
      exact (trim_trimEnd _).trans (trim_trimStart _)

section

variable {opened : Section} {read : List (List Char)}

theorem lineFeed_of_mem_keptBehind (free : ∀ line ∈ each, '\n' ∉ line) {placed : PlacedLine}
    (member : placed ∈ keptBehind opened read each) : '\n' ∉ placed.line :=
  free placed.line (line_mem_of_mem_placedBehind (List.mem_filter.mp member).1)

/-- Where nothing of a section is unfinished, its statements behind keep the lines that follow. -/
theorem keepsLines_groupsBehind (finished : unfinishedIn opened read = [])
    (free : ∀ line ∈ each, '\n' ∉ line) :
    KeepsLines ((groupsBehind opened read each).map statementOf) (keptBehind opened read each) := by
  have whole := flatten_groupsBehind opened read each
  rw [finished, List.nil_append] at whole
  rw [← whole]
  refine keepsLines_of_groups (fun group => isGroup_of_mem_groupsBehind) fun placed member => ?_
  rw [whole] at member
  exact lineFeed_of_mem_keptBehind free member

/-- Those that have ended keep the lines but for the unfinished ones. -/
theorem keepsLines_endedBehind (finished : unfinishedIn opened read = [])
    (free : ∀ line ∈ each, '\n' ∉ line) :
    ∃ kept, keptBehind opened read each = kept ++ unfinishedIn opened (read ++ each) ∧
      KeepsLines ((endedBehind opened read each).map statementOf) kept := by
  have whole := flatten_endedBehind opened read each
  rw [finished, List.nil_append] at whole
  refine ⟨(endedBehind opened read each).flatten, whole.symm, keepsLines_of_groups
    (fun group member => isGroup_of_mem_groupsBehind (List.mem_append_left _ member))
    fun placed member => ?_⟩
  have kept : placed ∈ keptBehind opened read each := whole ▸ List.mem_append_left _ member
  exact lineFeed_of_mem_keptBehind free kept

end

end

/-! ### Statements of scripts -/

/-- The statements of a section. -/
def Script.statements (script : Script) : Section → List String
  | .up => script.up
  | .down => script.down

namespace Progress

section

variable {progress further : Progress} {read : List (List Char)} {line : List Char}

/-- What is finished becomes a statement of the section that is open. -/
theorem statements_finishStatement (notBlank : ∀ line ∈ progress.pending, ¬ AreBlanks line)
    (opened : Section) :
    progress.finishStatement.script.statements opened = progress.script.statements opened ++
      if progress.current = some opened ∧ progress.pending ≠ [] then
        [statementText progress.pending]
      else [] := by
  have none_iff := trim_terminated_eq_nil_iff notBlank
  have text : String.ofList (trim (terminated progress.pending)) =
      statementText progress.pending := by
    rw [trim_terminated, statementText]
  unfold terminated at none_iff text
  unfold finishStatement
  cases cut : trim (progress.pending.flatMap fun line => line ++ ['\n']) with
  | nil => simp [none_iff.mp cut]
  | cons first rest =>
    rw [cut] at none_iff text
    have isPending : progress.pending ≠ [] := fun settled =>
      List.cons_ne_nil _ _ (none_iff.mpr settled)
    cases progress.current with
    | none => simp
    | some current =>
      cases current <;> cases opened <;> simp [Script.add, Script.statements, text, isPending]

/-- Progress keeps the lines that have been read. -/
structure Keeps (progress : Progress) (read : List (List Char)) : Prop where
  statements : ∀ opened, progress.script.statements opened =
    (endedBehind opened [] read).map statementOf
  pending : progress.pending = (unfinished read).map PlacedLine.line

theorem keeps_nil : Keeps {} [] :=
  ⟨fun opened => by cases opened <;> rfl, rfl⟩

theorem Keeps.notBlank (keeps : progress.Keeps read) :
    ∀ line ∈ progress.pending, ¬ AreBlanks line := by
  intro line member
  rw [keeps.pending] at member
  obtain ⟨placed, inside, rfl⟩ := List.mem_map.mp member
  exact (mem_unfinished inside).1.notBlank

/-- Progress that finishes what is pending keeps the lines if the latest one ends a statement. -/
theorem Keeps.finishStatement (keeps : progress.Keeps read) (agrees : progress.Agrees read)
    (ends : EndsStatement read line) {pending : List (List Char)}
    (same : pending = (PlacedLine.group ⟨read, line⟩).map PlacedLine.line) (opened : Section) :
    ({ progress with pending } : Progress).finishStatement.script.statements opened =
      (endedBehind opened [] (read ++ [line])).map statementOf := by
  have notBlank : ∀ other ∈ pending, ¬ AreBlanks other := by
    intro other member
    rw [same] at member
    obtain ⟨placed, inside, rfl⟩ := List.mem_map.mp member
    exact ((PlacedLine.isGroup _ (List.ne_nil_of_mem inside)).kept placed inside).notBlank
  rw [statements_finishStatement notBlank, endedBehind_append, List.map_append, ← keeps.statements]
  refine congrArg (progress.script.statements opened ++ ·) ?_
  simp only [agrees.current, same, endedBehind, placedBehind, List.nil_append, endedBy?, ends,
    true_and, List.filterMap_cons, List.filterMap_nil, ne_eq, List.map_eq_nil_iff]
  split_ifs <;> rfl

/-- A line with which no statement ends leaves the statements as they are. -/
theorem endedBehind_of_not_endsStatement {opened : Section} (goesOn : ¬ EndsStatement read line) :
    endedBehind opened [] (read ++ [line]) = endedBehind opened [] read := by
  rw [endedBehind_append]
  simp [endedBehind, placedBehind, endedBy?, goesOn]

/-- Progress keeps the lines that have been read, and each further one. -/
theorem Keeps.step (agrees : progress.Agrees read) (keeps : progress.Keeps read)
    (step : progress.Step read line further) : further.Keeps (read ++ [line]) := by
  have notEnds (marked : ¬ (marker? line).any Marker.ends = true) (spared : ¬ IsKept read line) :
      ¬ EndsStatement read line := by
    rintro (ends | ⟨kept, -⟩)
    · exact marked ends
    · exact spared kept
  -- Behind a line that ends a statement, nothing is pending.
  have closes {further : Progress} {pending : List (List Char)} (ends : EndsStatement read line)
      (same : pending = (PlacedLine.group ⟨read, line⟩).map PlacedLine.line)
      (script : further.script =
        ({ progress with pending } : Progress).finishStatement.script)
      (settled : further.pending = []) : further.Keeps (read ++ [line]) := by
    refine ⟨fun opened => ?_, ?_⟩
    · rw [script, keeps.finishStatement agrees ends same]
    · rw [settled, unfinished_append_singleton, if_pos ends, List.map_nil]
  -- Behind any other line the statements are the same.
  have goesOn {further : Progress} (notEnds : ¬ EndsStatement read line)
      (script : further.script = progress.script)
      (pending : further.pending = (PlacedLine.group ⟨read, line⟩).map PlacedLine.line) :
      further.Keeps (read ++ [line]) := by
    refine ⟨fun opened => ?_, ?_⟩
    · rw [script, keeps.statements, endedBehind_of_not_endsStatement notEnds]
    · rw [pending, unfinished_append_singleton, if_neg notEnds]
  have groupOfSpared (spared : ¬ IsKept read line) :
      progress.pending = (PlacedLine.group ⟨read, line⟩).map PlacedLine.line := by
    rw [PlacedLine.group, if_neg spared, List.append_nil, keeps.pending]
  have groupOfKept (kept : IsKept read line) :
      progress.pending ++ [line] = (PlacedLine.group ⟨read, line⟩).map PlacedLine.line := by
    rw [PlacedLine.group, if_pos kept, List.map_append, keeps.pending, List.map_singleton]
  cases step with
  | opens marked _ | ends marked =>
    exact closes (.inl (by rw [marked]; rfl)) (groupOfSpared (not_isKept_of_marker? marked)) rfl rfl
  | begins marked =>
    exact goesOn (notEnds (by rw [marked]; decide) (not_isKept_of_marker? marked)) rfl
      (groupOfSpared (not_isKept_of_marker? marked))
  | passes unmarked notKept =>
    exact goesOn (notEnds (by rw [unmarked]; decide) notKept) rfl (groupOfSpared notKept)
  | keeps kept _ continues => exact goesOn continues rfl (groupOfKept kept)
  | closes kept _ ends => exact closes ends (groupOfKept kept) rfl rfl

end

end Progress

section

variable {source : String} {script : Script}

/-- The statements of a section are made of its groups of lines. -/
theorem statements_of_parse (parsed : Script.parse source = .ok script) (opened : Section) :
    script.statements opened =
      (groupsBehind opened [] (lines source.toList)).map statementOf := by
  obtain ⟨final, success, -, -, rfl⟩ := parse_eq_ok.mp parsed
  obtain ⟨agrees, keeps⟩ := Progress.agrees_nil.readAll_preserves Progress.Keeps.step
    Progress.keeps_nil success
  rw [List.nil_append] at agrees keeps
  rw [Progress.statements_finishStatement keeps.notBlank, keeps.statements, groupsBehind,
    List.map_append]
  refine congrArg _ ?_
  rw [agrees.current, keeps.pending, unfinishedIn, List.nil_append]
  by_cases isOpen : sectionAfter (lines source.toList) = some opened <;>
    by_cases finished : unfinished (lines source.toList) = [] <;>
    simp [isOpen, finished, statementOf]

/-- The statements of each section keep the lines that belong to it. -/
theorem parse_keepsLines (parsed : Script.parse source = .ok script) (opened : Section) :
    KeepsLines (script.statements opened) (keptBehind opened [] (lines source.toList)) := by
  rw [statements_of_parse parsed]
  exact keepsLines_groupsBehind (unfinishedIn_nil opened) fun _ => lineFeed_of_mem_lines

/-- Statements to apply stand in two places, with one to take back between them. -/
theorem parse_keepsLines_reopened :
    Script.parse "-- +migrate Up\nA (\n  b);\n-- +migrate Down\nC;\n-- +migrate Up\n-- d\nE\n" =
        .ok ⟨["A (\n  b);", "E"], ["C;"]⟩ ∧
      KeepsLines (Script.statements ⟨["A (\n  b);", "E"], ["C;"]⟩ .up)
        (keptBehind .up [] (lines
          "-- +migrate Up\nA (\n  b);\n-- +migrate Down\nC;\n-- +migrate Up\n-- d\nE\n".toList)) :=
  ⟨by decide +kernel, parse_keepsLines (by decide +kernel) .up⟩

end

end RecordMapper.Migration
