/-
This file proves which migration scripts are accepted. A script is read line by line, and each line
is looked at with nothing in mind but the section that is open, whether a block is, and whether
statements to apply have been announced. These three always are what the lines so far say, so that
reading stops at the first line that cannot stand where it does, and reports its number. A script in
which there is none is still refused if it ends within a block or has no statements to apply.
-/

import RecordMapper.Proofs.Migration.Lines

namespace RecordMapper.Migration

open Text

/-! ### Offences -/

/-- The directives that mean something. -/
def directives : List String :=
  ["up", "down", "statementbegin", "statementend"]

/-- A line behind others cannot stand there, and a fault says why. -/
inductive Offends (read : List (List Char)) (line : List Char) : ArgumentFault → Prop
  | unknownDirective {directive : String} (marker : IsMarker line directive)
    (unknown : directive ∉ directives) :
    Offends read line (.unknownDirective (read.length + 1) directive)
  | sectionInBlock {directive : String} (marker : IsMarker line directive)
    (opens : directive ∈ ["up", "down"]) (inBlock : blockAfter read = true) :
    Offends read line (.sectionInBlock (read.length + 1))
  | beforeSection (kept : IsKept read line) (before : sectionAfter read = none) :
    Offends read line (.beforeSection (read.length + 1))

/-- None of the lines that come behind others offends there. -/
def AreLawfulBehind (read each : List (List Char)) : Prop :=
  ∀ before line after, each = before ++ line :: after →
    ∀ fault, ¬ Offends (read ++ before) line fault

/-- Lines make a lawful script. -/
structure IsLawful (each : List (List Char)) : Prop where
  known : ∀ line ∈ each, ∀ directive, IsMarker line directive → directive ∈ directives
  /-- No section is opened within a block. -/
  apart : ∀ before line after, each = before ++ line :: after →
    IsMarker line "up" ∨ IsMarker line "down" → blockAfter before = false
  /-- No statement begins before the first section. -/
  placed : ∀ before line after, each = before ++ line :: after → IsKept before line →
    ∃ earlier ∈ before, IsMarker earlier "up" ∨ IsMarker earlier "down"
  ended : blockAfter each = false
  hasUp : ∃ line ∈ each, IsMarker line "up"

/-- Lines make no script, and a fault says what is found first. -/
inductive IsRefused (each : List (List Char)) : ArgumentFault → Prop
  | line {before after : List (List Char)} {line : List Char} {fault : ArgumentFault}
    (whole : each = before ++ line :: after) (lawful : AreLawfulBehind [] before)
    (offends : Offends before line fault) : IsRefused each fault
  | openBlock (lawful : AreLawfulBehind [] each) (inBlock : blockAfter each = true) :
    IsRefused each .openBlock
  | noUpSection (lawful : AreLawfulBehind [] each) (ended : blockAfter each = false)
    (noUp : ∀ line ∈ each, ¬ IsMarker line "up") : IsRefused each .noUpSection

section

variable {read each : List (List Char)} {line : List Char} {fault : ArgumentFault}

/-- What is said of a line that offends begins with its number. -/
theorem Offends.message (offends : Offends read line fault) :
    ∃ reason, fault.message = "line " ++ naturalText (read.length + 1) ++ ": " ++ reason := by
  cases offends with
  | @unknownDirective directive _ _ =>
    exact ⟨"unknown migration directive `" ++ directive ++ "`", by
      simp [ArgumentFault.message, ← String.toList_inj]⟩
  | sectionInBlock =>
    exact ⟨"section marker inside a StatementBegin block", by
      simp [ArgumentFault.message, ← String.toList_inj]⟩
  | beforeSection =>
    exact ⟨"statement before any `-- +migrate Up` / `Down` marker", by
      simp [ArgumentFault.message, ← String.toList_inj]⟩

theorem Marker.ofDirective_eq_opens {directive : String} {opened : Section}
    (opens : Marker.ofDirective directive = .opens opened) : directive ∈ ["up", "down"] := by
  unfold Marker.ofDirective at opens
  grind

theorem Marker.ofDirective_eq_unknown {directive other : String}
    (unknown : Marker.ofDirective directive = .unknown other) :
    directive = other ∧ directive ∉ directives := by
  unfold Marker.ofDirective at unknown
  grind [directives]

theorem Marker.ofDirective_of_not_mem {directive : String} (unknown : directive ∉ directives) :
    Marker.ofDirective directive = .unknown directive := by
  unfold Marker.ofDirective
  grind [directives]

theorem Marker.ofDirective_of_mem {directive : String} (opens : directive ∈ ["up", "down"]) :
    ∃ opened, Marker.ofDirective directive = .opens opened := by
  rcases List.mem_pair.mp opens with rfl | rfl
  · exact ⟨.up, rfl⟩
  · exact ⟨.down, rfl⟩

/-- What offends is told by what the line says as a marker. -/
theorem offends_iff : Offends read line fault ↔
    (∃ directive, marker? line = some (.unknown directive) ∧
      .unknownDirective (read.length + 1) directive = fault) ∨
    (∃ opened, marker? line = some (.opens opened) ∧ blockAfter read = true ∧
      .sectionInBlock (read.length + 1) = fault) ∨
    (IsKept read line ∧ sectionAfter read = none ∧ .beforeSection (read.length + 1) = fault) := by
  constructor
  · intro offends
    cases offends with
    | unknownDirective marker unknown =>
      rw [isMarker_iff, Marker.ofDirective_of_not_mem unknown] at marker
      exact .inl ⟨_, marker, rfl⟩
    | sectionInBlock marker opens inBlock =>
      obtain ⟨opened, marked⟩ := Marker.ofDirective_of_mem opens
      exact .inr (.inl ⟨opened, marked ▸ isMarker_iff.mp marker, inBlock, rfl⟩)
    | beforeSection kept before => exact .inr (.inr ⟨kept, before, rfl⟩)
  · rintro (⟨directive, marked, rfl⟩ | ⟨opened, marked, inBlock, rfl⟩ | ⟨kept, before, rfl⟩)
    · obtain ⟨other, same, marker⟩ := exists_isMarker marked
      obtain ⟨rfl, unknown⟩ := Marker.ofDirective_eq_unknown same.symm
      exact .unknownDirective marker unknown
    · obtain ⟨other, same, marker⟩ := exists_isMarker marked
      exact .sectionInBlock marker (Marker.ofDirective_eq_opens same.symm) inBlock
    · exact .beforeSection kept before

/-- The first of some lines has to be lawful, and then the others behind it. -/
theorem areLawfulBehind_cons {rest : List (List Char)} :
    AreLawfulBehind read (line :: rest) ↔
      (∀ fault, ¬ Offends read line fault) ∧ AreLawfulBehind (read ++ [line]) rest := by
  constructor
  · intro lawful
    refine ⟨fun fault => ?_, fun before other after whole fault => ?_⟩
    · simpa using lawful [] line rest rfl fault
    · simpa using lawful (line :: before) other after (by rw [whole]; rfl) fault
  · rintro ⟨first, behind⟩ before other after whole fault
    cases before with
    | nil =>
      cases whole
      simpa using first fault
    | cons head before =>
      cases whole
      simpa using behind before other after rfl fault

end

/-! ### Reading a line -/

namespace Progress

section

variable {progress further : Progress} {read : List (List Char)} {line : List Char}

@[simp]
theorem finishStatement_current (progress : Progress) :
    progress.finishStatement.current = progress.current :=
  rfl

@[simp]
theorem finishStatement_inBlock (progress : Progress) :
    progress.finishStatement.inBlock = progress.inBlock :=
  rfl

@[simp]
theorem finishStatement_hasUp (progress : Progress) :
    progress.finishStatement.hasUp = progress.hasUp :=
  rfl

/-- A line is read by what it says as a marker. -/
theorem read_eq (progress : Progress) (number : Nat) (line : List Char) :
    progress.read number line =
      match marker? line with
      | some (.opens opened) => progress.openSection number opened
      | some .beginsBlock => .ok { progress with inBlock := true }
      | some .endsBlock => .ok { progress.finishStatement with inBlock := false }
      | some (.unknown directive) => .error (.unknownDirective number directive)
      | none => progress.addLine number line := by
  unfold Progress.read marker?
  cases directive? (trim line) with
  | none => rfl
  | some directive =>
    simp only [Option.map_some, followDirective, Marker.ofDirective]
    split_ifs <;> rfl

/-- Progress agrees with the lines that have been read. -/
structure Agrees (progress : Progress) (read : List (List Char)) : Prop where
  current : progress.current = sectionAfter read
  inBlock : progress.inBlock = blockAfter read
  hasUp : progress.hasUp = true ↔ ∃ line ∈ read, IsMarker line "up"

theorem agrees_nil : Agrees {} [] :=
  ⟨rfl, rfl, by simp⟩

/-- What becomes of progress with a line that can stand behind the lines that have been read. -/
inductive Step (progress : Progress) (read : List (List Char)) (line : List Char) : Progress → Prop
  | opens {opened : Section} (marked : marker? line = some (.opens opened))
    (outside : blockAfter read = false) :
    Step progress read line
      { progress.finishStatement with
        current := some opened, hasUp := progress.hasUp || opened == .up }
  | begins (marked : marker? line = some .beginsBlock) :
    Step progress read line { progress with inBlock := true }
  | ends (marked : marker? line = some .endsBlock) :
    Step progress read line { progress.finishStatement with inBlock := false }
  | passes (unmarked : marker? line = none) (spared : ¬ IsKept read line) :
    Step progress read line progress
  | keeps (kept : IsKept read line) (placed : sectionAfter read ≠ none)
    (continues : ¬ EndsStatement read line) :
    Step progress read line { progress with pending := progress.pending ++ [line] }
  | closes (kept : IsKept read line) (placed : sectionAfter read ≠ none)
    (ends : EndsStatement read line) :
    Step progress read line
      ({ progress with pending := progress.pending ++ [line] } : Progress).finishStatement

/-- A line that is no marker is passed over unless it belongs to a statement. -/
theorem Agrees.passesOver_iff (agrees : progress.Agrees read) (unmarked : marker? line = none) :
    progress.passesOver (trim line) = true ↔ ¬ IsKept read line := by
  have kept_iff : IsKept read line ↔
      ¬ AreBlanks line ∧ (['-', '-'] <+: trim line → blockAfter read = true) :=
    ⟨fun kept => ⟨kept.notBlank, kept.noComment⟩,
      fun ⟨notBlank, noComment⟩ => ⟨marker?_eq_none.mp unmarked, notBlank, noComment⟩⟩
  rw [kept_iff, passesOver, Bool.or_eq_true, Bool.and_eq_true, List.isEmpty_iff, trim_eq_nil_iff,
    isSome_withoutOpening, agrees.inBlock]
  cases blockAfter read <;> simp [Classical.or_iff_not_imp_left]

/-- A line that belongs to a statement ends it if it stands outside of blocks and ends in a
semicolon. -/
theorem Agrees.endsStatement_iff (agrees : progress.Agrees read) (kept : IsKept read line) :
    (!progress.inBlock && (trim line).getLast? == some ';') = true ↔ EndsStatement read line := by
  simp [EndsStatement, kept, kept.marker?, agrees.inBlock]

/-- Reading a line fails exactly if the line offends, and then with its fault. -/
theorem Agrees.read_eq_error (agrees : progress.Agrees read) {fault : ArgumentFault} :
    progress.read (read.length + 1) line = .error fault ↔ Offends read line fault := by
  rw [read_eq, offends_iff]
  cases marked : marker? line with
  | none =>
    have passes := agrees.passesOver_iff marked
    unfold addLine
    by_cases kept : IsKept read line
    · rw [if_neg (by rw [passes]; exact fun spared => spared kept), agrees.current]
      cases sectionAfter read <;> simp [kept]
    · simp [if_pos (passes.mpr kept), kept]
  | some marker =>
    have notKept : ¬ IsKept read line := not_isKept_of_marker? marked
    cases marker with
    | opens opened =>
      unfold openSection
      rw [agrees.inBlock]
      cases blockAfter read <;> simp [notKept]
    | beginsBlock => simp [notKept]
    | endsBlock => simp [notKept]
    | unknown directive => simp [notKept]

/-- A line that is no marker, and does not offend, is passed over or taken. -/
theorem Agrees.step_of_addLine (agrees : progress.Agrees read) {number : Nat}
    (unmarked : marker? line = none) (success : progress.addLine number line = .ok further) :
    progress.Step read line further := by
  have passes := agrees.passesOver_iff unmarked
  unfold addLine at success
  by_cases kept : IsKept read line
  · rw [if_neg (by rw [passes]; exact fun spared => spared kept)] at success
    by_cases placed : sectionAfter read = none
    · rw [if_pos (by rw [agrees.current, placed]; rfl)] at success
      cases success
    · rw [if_neg (by rwa [agrees.current, Option.isNone_iff_eq_none])] at success
      by_cases closing : EndsStatement read line
      · simp only [(agrees.endsStatement_iff kept).mpr closing, if_true] at success
        cases success
        exact .closes kept placed closing
      · simp only [mt (agrees.endsStatement_iff kept).mp closing] at success
        cases success
        exact .keeps kept placed closing
  · rw [if_pos (passes.mpr kept)] at success
    cases success
    exact .passes unmarked kept

/-- Progress goes on in one of six ways. -/
theorem Agrees.step_of_read (agrees : progress.Agrees read) {number : Nat}
    (success : progress.read number line = .ok further) : progress.Step read line further := by
  rw [read_eq] at success
  cases marked : marker? line with
  | none =>
    rw [marked] at success
    exact agrees.step_of_addLine marked success
  | some marker =>
    rw [marked] at success
    cases marker with
    | opens opened =>
      simp only [openSection] at success
      split at success
      · cases success
      · rename_i outside
        cases success
        exact .opens marked (by simpa [agrees.inBlock] using outside)
    | beginsBlock =>
      cases success
      exact .begins marked
    | endsBlock =>
      cases success
      exact .ends marked
    | unknown directive => cases success

/-- A line announces statements to apply if it is a marker that opens their section. -/
theorem isMarker_up_iff : IsMarker line "up" ↔ marker? line = some (.opens .up) :=
  isMarker_iff

/-- Progress keeps agreeing with the lines that have been read. -/
theorem Agrees.step (agrees : progress.Agrees read) (step : progress.Step read line further) :
    further.Agrees (read ++ [line]) := by
  obtain ⟨current, inBlock, hasUp⟩ := agrees
  cases step with
  | @opens opened marked _ =>
    refine ⟨?_, ?_, ?_⟩
    · simp [sectionAfter_append_singleton, marked, Marker.opened?]
    · simp [blockAfter_append_singleton, marked, Marker.block?, inBlock]
    · cases opened <;> simp [isMarker_up_iff, marked, hasUp]
  | begins marked | ends marked =>
    refine ⟨?_, ?_, ?_⟩
    · simp [sectionAfter_append_singleton, marked, Marker.opened?, current]
    · simp [blockAfter_append_singleton, marked, Marker.block?]
    · simp [isMarker_up_iff, marked, hasUp]
  | passes marked _ =>
    refine ⟨?_, ?_, ?_⟩
    · simp [sectionAfter_append_singleton, marked, current]
    · simp [blockAfter_append_singleton, marked, inBlock]
    · simp [isMarker_up_iff, marked, hasUp]
  | keeps kept _ _ | closes kept _ _ =>
    refine ⟨?_, ?_, ?_⟩
    · simp [sectionAfter_append_singleton, kept.marker?, current]
    · simp [blockAfter_append_singleton, kept.marker?, inBlock]
    · simp [isMarker_up_iff, kept.marker?, hasUp]

end

/-! ### Reading all lines -/

section

variable {progress final : Progress} {read rest : List (List Char)}

/-- What every line preserves that can stand where it does holds once all lines have been read. -/
theorem Agrees.readAll_preserves {holds : Progress → List (List Char) → Prop}
    (step : ∀ {progress further : Progress} {read : List (List Char)} {line : List Char},
      progress.Agrees read → holds progress read → progress.Step read line further →
        holds further (read ++ [line]))
    (agrees : progress.Agrees read) (begins : holds progress read) {number : Nat}
    (success : progress.readAll number rest = .ok final) :
    final.Agrees (read ++ rest) ∧ holds final (read ++ rest) := by
  induction rest generalizing progress read number with
  | nil =>
    cases success
    rw [List.append_nil]
    exact ⟨agrees, begins⟩
  | cons line rest inductionHypothesis =>
    unfold readAll at success
    split at success
    · cases success
    · rename_i further first
      have goesOn := agrees.step_of_read first
      have finished := inductionHypothesis (agrees.step goesOn) (step agrees begins goesOn) success
      rwa [List.append_assoc, List.singleton_append] at finished

/-- All lines can be read exactly if none of them offends. -/
theorem Agrees.exists_readAll (agrees : progress.Agrees read) :
    (∃ final, progress.readAll (read.length + 1) rest = .ok final) ↔ AreLawfulBehind read rest := by
  induction rest generalizing progress read with
  | nil =>
    refine ⟨fun _ before line after whole => ?_, fun _ => ⟨progress, rfl⟩⟩
    cases before <;> cases whole
  | cons line rest inductionHypothesis =>
    rw [areLawfulBehind_cons]
    simp only [← agrees.read_eq_error]
    unfold readAll
    cases first : progress.read (read.length + 1) line with
    | error fault => simp
    | ok further =>
      have behind := inductionHypothesis (agrees.step (agrees.step_of_read first))
      rw [List.length_append, List.length_singleton] at behind
      simpa using behind

/-- Reading fails with the fault of the first line that offends. -/
theorem Agrees.readAll_eq_error (agrees : progress.Agrees read) {fault : ArgumentFault} :
    progress.readAll (read.length + 1) rest = .error fault ↔
      ∃ before line after, rest = before ++ line :: after ∧ AreLawfulBehind read before ∧
        Offends (read ++ before) line fault := by
  induction rest generalizing progress read with
  | nil => simp [readAll]
  | cons line rest inductionHypothesis =>
    have first {other : ArgumentFault} : progress.read (read.length + 1) line = .error other ↔
        Offends read line other :=
      agrees.read_eq_error
    unfold readAll
    constructor
    · intro failed
      split at failed
      · rename_i other stops
        cases failed
        refine ⟨[], line, rest, rfl, fun before other after whole => ?_, ?_⟩
        · cases before <;> cases whole
        · rw [List.append_nil]
          exact first.mp stops
      · rename_i further goesOn
        have agreesBehind := agrees.step (agrees.step_of_read goesOn)
        rw [show read.length + 1 = (read ++ [line]).length by simp] at failed
        obtain ⟨before, other, after, whole, lawful, offends⟩ :=
          (inductionHypothesis agreesBehind).mp failed
        refine ⟨line :: before, other, after, by rw [whole]; rfl, ?_, ?_⟩
        · refine areLawfulBehind_cons.mpr ⟨fun fault offends => ?_, lawful⟩
          rw [first.mpr offends] at goesOn
          cases goesOn
        · simpa using offends
    · rintro ⟨before, other, after, whole, lawful, offends⟩
      cases before with
      | nil =>
        cases whole
        rw [List.append_nil] at offends
        rw [first.mpr offends]
      | cons head before =>
        cases whole
        obtain ⟨lawfulFirst, lawfulBehind⟩ := areLawfulBehind_cons.mp lawful
        cases goesOn : progress.read (read.length + 1) line with
        | error fault => exact absurd (first.mp goesOn) (lawfulFirst fault)
        | ok further =>
          have agreesBehind := agrees.step (agrees.step_of_read goesOn)
          have behind := (inductionHypothesis agreesBehind).mpr
            ⟨before, other, after, rfl, lawfulBehind, by simpa using offends⟩
          rwa [List.length_append, List.length_singleton] at behind

end

end Progress

/-! ### Scripts -/

section

variable {each : List (List Char)}

/-- Lines make a lawful script if none of them offends and the end is in order. -/
theorem isLawful_iff : IsLawful each ↔ AreLawfulBehind [] each ∧ blockAfter each = false ∧
    ∃ line ∈ each, IsMarker line "up" := by
  constructor
  · rintro ⟨known, apart, placed, ended, hasUp⟩
    refine ⟨fun before line after whole fault offends => ?_, ended, hasUp⟩
    rw [List.nil_append] at offends
    have member : line ∈ each := by simp [whole]
    cases offends with
    | unknownDirective marker unknown => exact unknown (known line member _ marker)
    | sectionInBlock marker opens inBlock =>
      have outside := apart before line after whole (by
        rcases List.mem_pair.mp opens with rfl | rfl
        · exact .inl marker
        · exact .inr marker)
      rw [outside] at inBlock
      cases inBlock
    | beforeSection kept unopened =>
      exact sectionAfter_ne_none.mpr (placed before line after whole kept) unopened
  · rintro ⟨lawful, ended, hasUp⟩
    refine ⟨fun line member directive marker => ?_, fun before line after whole opens => ?_,
      fun before line after whole kept => sectionAfter_ne_none.mp fun unopened => ?_, ended, hasUp⟩
    · obtain ⟨before, after, whole⟩ := List.append_of_mem member
      by_contra unknown
      exact lawful before line after whole _ (.unknownDirective marker unknown)
    · by_contra inBlock
      rw [Bool.not_eq_false] at inBlock
      rcases opens with marker | marker <;>
        exact lawful before line after whole _ (.sectionInBlock marker (by decide) inBlock)
    · exact lawful before line after whole _ (.beforeSection kept unopened)

/-- A script is accepted if all its lines can be read and the end is in order. -/
theorem parse_eq_ok {source : String} {script : Script} : Script.parse source = .ok script ↔
    ∃ final : Progress, ({} : Progress).readAll 1 (lines source.toList) = .ok final ∧
      final.inBlock = false ∧ final.hasUp = true ∧ script = final.finishStatement.script := by
  unfold Script.parse
  cases ({} : Progress).readAll 1 (lines source.toList) with
  | error fault => simp
  | ok final =>
    simp only [Except.ok.injEq, exists_eq_left']
    constructor
    · intro accepted
      split_ifs at accepted with inBlock hasUp
      cases accepted
      exact ⟨by simpa using inBlock, hasUp, rfl⟩
    · rintro ⟨ended, hasUp, rfl⟩
      rw [if_neg (by simp [ended]), if_pos hasUp]

/-- Lines that have been read have the progress that agrees with them. -/
theorem agrees_of_readAll {final : Progress}
    (success : ({} : Progress).readAll 1 each = .ok final) : final.Agrees each :=
  (Progress.agrees_nil.readAll_preserves (fun agrees _ step => agrees.step step)
    Progress.agrees_nil success).1

/-- What is refused is refused with the first fault. -/
theorem parse_eq_error (source : String) (fault : ArgumentFault) :
    Script.parse source = .error fault ↔ IsRefused (lines source.toList) fault := by
  have reads : (∃ final, ({} : Progress).readAll 1 (lines source.toList) = .ok final) ↔
      AreLawfulBehind [] (lines source.toList) :=
    Progress.agrees_nil.exists_readAll
  have fails {fault : ArgumentFault} :
      ({} : Progress).readAll 1 (lines source.toList) = .error fault ↔
        ∃ before line after, lines source.toList = before ++ line :: after ∧
          AreLawfulBehind [] before ∧ Offends ([] ++ before) line fault :=
    Progress.agrees_nil.readAll_eq_error
  unfold Script.parse
  cases read : ({} : Progress).readAll 1 (lines source.toList) with
  | error stopped =>
    have unlawful : ¬ AreLawfulBehind [] (lines source.toList) := fun lawful => by
      obtain ⟨final, success⟩ := reads.mpr lawful
      rw [read] at success
      cases success
    constructor
    · rintro ⟨⟩
      obtain ⟨before, line, after, whole, lawful, offends⟩ := fails.mp read
      exact .line whole lawful offends
    · intro refused
      cases refused with
      | line whole lawful offends =>
        have failed := fails.mpr ⟨_, _, _, whole, lawful, offends⟩
        rw [read] at failed
        cases failed
        rfl
      | openBlock lawful | noUpSection lawful => exact absurd lawful unlawful
  | ok final =>
    have lawful : AreLawfulBehind [] (lines source.toList) := reads.mp ⟨final, read⟩
    have agrees := agrees_of_readAll read
    have notRefused {before after : List (List Char)} {line : List Char}
        (whole : lines source.toList = before ++ line :: after) : ¬ Offends before line fault :=
      lawful before line after whole fault
    simp only [agrees.inBlock]
    constructor
    · intro failed
      split_ifs at failed with inBlock hasUp
      · cases failed
        exact .openBlock lawful inBlock
      · cases failed
        refine .noUpSection lawful (by simpa using inBlock) fun line member marker => ?_
        exact hasUp (agrees.hasUp.mpr ⟨line, member, marker⟩)
    · intro refused
      cases refused with
      | line whole _ offends => exact absurd offends (notRefused whole)
      | openBlock _ inBlock => rw [if_pos inBlock]
      | noUpSection _ ended noUp =>
        have noneUp : ¬ final.hasUp = true := fun hasUp => by
          obtain ⟨line, member, marker⟩ := agrees.hasUp.mp hasUp
          exact noUp line member marker
        rw [if_neg (by simp [ended]), if_neg noneUp]

/-- A script is accepted exactly if its lines are lawful. -/
theorem exists_parse_iff (source : String) :
    (∃ script, Script.parse source = .ok script) ↔ IsLawful (lines source.toList) := by
  rw [isLawful_iff, ← Progress.agrees_nil.exists_readAll]
  constructor
  · rintro ⟨script, accepted⟩
    obtain ⟨final, success, ended, hasUp, -⟩ := parse_eq_ok.mp accepted
    have agrees := agrees_of_readAll success
    exact ⟨⟨final, success⟩, agrees.inBlock ▸ ended, agrees.hasUp.mp hasUp⟩
  · rintro ⟨⟨final, success⟩, ended, hasUp⟩
    have agrees := agrees_of_readAll success
    exact ⟨_, parse_eq_ok.mpr
      ⟨final, success, agrees.inBlock.trans ended, agrees.hasUp.mpr hasUp, rfl⟩⟩

/-- A script is accepted exactly if its lines are lawful; of lines that offend, the first is
reported by its number. -/
theorem parse_accepts_lawful (source : String) :
    ((∃ script, Script.parse source = .ok script) ↔ IsLawful (lines source.toList)) ∧
      (∀ fault, Script.parse source = .error fault ↔ IsRefused (lines source.toList) fault) ∧
      ∀ before line fault, Offends before line fault → ∃ reason,
        fault.message = "line " ++ naturalText (before.length + 1) ++ ": " ++ reason :=
  ⟨exists_parse_iff source, parse_eq_error source, fun _ _ _ => Offends.message⟩

end

end RecordMapper.Migration
