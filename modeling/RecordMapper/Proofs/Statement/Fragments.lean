/-
This file says how the fragments of a statement are read. The text of a statement is determined
by its fragments from left to right, and of an argument only the kind and the position show in it.
Passages are texts with known edges whose tokens are all of a permitted sort; fragments that are
made of passages and arguments compose where their edges fit. If none of the passages has a marker
in it, the markers that are read in the whole are those of the arguments.
-/

import Mathlib.Data.List.Forall2
import RecordMapper.Proofs.Dialect.Lawful
import RecordMapper.Proofs.Value.Coercion
import RecordMapper.Statement.Basic

namespace RecordMapper

open Sql Text

/-! ### Texts and arguments -/

/-- The text of fragments before which a number of arguments is bound. -/
def written (dialect : Dialect) : Nat → List Fragment → String
  | _, [] => ""
  | bound, .text sql :: rest => sql ++ written dialect bound rest
  | bound, .argument argument :: rest =>
    dialect.placeholder (bound + 1) ++ dialect.bindCast argument.2 ++
      written dialect (bound + 1) rest

/-- The arguments among fragments. -/
def supplied : List Fragment → List Argument
  | [] => []
  | .text _ :: rest => supplied rest
  | .argument argument :: rest => argument :: supplied rest

variable {dialect : Dialect}

theorem written_append (bound : Nat) (opening closing : List Fragment) :
    written dialect bound (opening ++ closing) =
      written dialect bound opening ++
        written dialect (bound + (supplied opening).length) closing := by
  induction opening generalizing bound with
  | nil => exact (String.empty_append).symm
  | cons fragment rest inductionHypothesis =>
    cases fragment with
    | text sql => simp only [List.cons_append, written, supplied, inductionHypothesis,
        String.append_assoc]
    | argument argument =>
      simp only [List.cons_append, written, supplied, inductionHypothesis, String.append_assoc,
        List.length_cons]
      rw [Nat.add_right_comm, Nat.add_assoc]

theorem written_append_text (bound : Nat) (fragments : List Fragment) (sql : String) :
    written dialect bound (fragments ++ [.text sql]) = written dialect bound fragments ++ sql := by
  rw [written_append, written, written, String.append_empty]

/-- Adding fragments to a statement adds their text and their arguments. -/
theorem foldl_add (statement : Statement) (fragments : List Fragment) :
    fragments.foldl (Statement.add dialect) statement =
      ⟨statement.sql ++ written dialect statement.arguments.length fragments,
        statement.arguments ++ supplied fragments⟩ := by
  induction fragments generalizing statement with
  | nil => simp only [List.foldl_nil, written, supplied, String.append_empty, List.append_nil]
  | cons fragment rest inductionHypothesis =>
    rw [List.foldl_cons, inductionHypothesis]
    cases fragment with
    | text sql => simp only [Statement.add, Statement.append, written, supplied,
        String.append_assoc]
    | argument argument => simp only [Statement.add, Statement.bind, written, supplied,
        String.append_assoc, List.length_append, List.length_singleton, List.append_assoc,
        List.singleton_append]

/-- The statement that fragments make up has their text and their arguments. -/
theorem ofFragments_eq (fragments : List Fragment) :
    Statement.ofFragments dialect fragments =
      ⟨written dialect 0 fragments, supplied fragments⟩ := by
  rw [Statement.ofFragments, foldl_add]
  exact congrArg (Statement.mk · _) String.empty_append

/-! ### Passages -/

/-- A text with known edges, all of whose tokens are permitted. -/
structure Passage (quote : Char) (permits : Token → Prop) (start : Edge) (text : String)
    (finish : Edge) : Prop where
  flows : Flows quote start text.toList finish
  permitted : ∀ token ∈ tokens quote text.toList, permits token

namespace Passage

variable {quote : Char} {permits : Token → Prop} {start middle finish : Edge} {text : String}

theorem append {opening closing : String} (first : Passage quote permits start opening middle)
    (second : Passage quote permits middle closing finish) :
    Passage quote permits start (opening ++ closing) finish := by
  constructor
  · rw [String.toList_append]
    exact first.flows.append second.flows
  · rw [String.toList_append, tokens_append first.flows second.flows]
    intro token member
    rcases List.mem_append.mp member with early | late
    · exact first.permitted token early
    · exact second.permitted token late

theorem weaken (passage : Passage quote permits .bound text finish) :
    Passage quote permits start text finish :=
  ⟨passage.flows.weaken, passage.permitted⟩

/-- Items between which a separator stands are a passage together. -/
theorem intercalate {separator : String} {items : List String}
    (separates : Passage quote permits .bound separator .free)
    (each : ∀ item ∈ items, Passage quote permits .free item .bound) :
    Passage quote permits .free (separator.intercalate items) .bound := by
  induction items with
  | nil =>
    rw [String.intercalate_nil]
    exact ⟨flows_nil.relax, fun _ member => (by cases member)⟩
  | cons item rest inductionHypothesis =>
    have first := each item List.mem_cons_self
    have later := inductionHypothesis fun other member => each other (List.mem_cons_of_mem _ member)
    cases rest with
    | nil =>
      rw [String.intercalate_singleton]
      exact first
    | cons next others =>
      rw [String.intercalate_cons_cons]
      exact (first.append separates).append later

theorem of_quote {name : String} (permitted : permits (.name name.toList)) :
    Passage dialect.quoteCharacter permits .free (dialect.quote name) .bound := by
  constructor
  · rw [Dialect.quote, String.toList_ofList]
    exact flows_quotedName _
  · rw [Dialect.quote, String.toList_ofList, tokens, lex_quotedName]
    intro token member
    rw [List.mem_singleton.mp member]
    exact permitted

section

variable {words : List String} (plainQuote : isPlain quote = false)
  (bare : ∀ token : Token, token.isBare words = true → permits token)

include plainQuote bare

theorem of_isPhrase (phrase : isPhrase words start text finish = true) :
    Passage quote permits start text finish := by
  rw [isPhrase, Bool.and_eq_true] at phrase
  obtain ⟨fitting, areBare⟩ := phrase
  have plain := isPlain_of_isFitting fitting
  refine ⟨flows_of_isFitting plainQuote fitting, fun token member => bare token ?_⟩
  rw [tokens_of_isPlain plainQuote plain] at member
  exact List.all_eq_true.mp areBare token member

theorem of_naturalText (value : Nat) : Passage quote permits .free (naturalText value) .bound := by
  have areDigits := isDigits_toDigits value
  obtain ⟨read, flows⟩ := lex_numeral plainQuote Nat.toDigits_ne_nil areDigits
  constructor
  · rw [toList_naturalText]
    exact flows
  · rw [toList_naturalText, tokens, read]
    intro token member
    rw [List.mem_singleton.mp member]
    refine bare _ ?_
    rw [Token.isBare, Bool.or_eq_true]
    exact .inr (List.all_eq_true.mpr areDigits)

end

end Passage

/-! ### Composition -/

/-- An argument is absent or of the variant that its kind names. -/
def IsTyped (argument : Argument) : Prop :=
  argument.1 = .null ∨ argument.2.names argument.1 = true

/-- Fragments are passages and typed arguments whose edges fit. An argument follows something
settled and needs a separator after it. -/
inductive Composes (dialect : Dialect) (permits : Token → Prop) : Edge → List Fragment → Edge → Prop
  | nil {edge} : Composes dialect permits edge [] edge
  | idle : Composes dialect permits .free [] .bound
  | text {start middle finish sql rest} :
      Passage dialect.quoteCharacter permits start sql middle →
        Composes dialect permits middle rest finish →
          Composes dialect permits start (.text sql :: rest) finish
  | argument {finish argument rest} : IsTyped argument →
      Composes dialect permits .bound rest finish →
        Composes dialect permits .free (.argument argument :: rest) finish

namespace Composes

variable {permits : Token → Prop} {start middle finish : Edge} {opening closing : List Fragment}

theorem weaken (composes : Composes dialect permits .bound closing finish) :
    Composes dialect permits start closing finish := by
  cases composes with
  | nil =>
    cases start with
    | free => exact .idle
    | bound => exact .nil
  | text passage rest => exact .text passage.weaken rest

theorem append (first : Composes dialect permits start opening middle)
    (second : Composes dialect permits middle closing finish) :
    Composes dialect permits start (opening ++ closing) finish := by
  induction first with
  | nil => exact second
  | idle => exact second.weaken
  | text passage _ inductionHypothesis => exact .text passage (inductionHypothesis second)
  | argument typed _ inductionHypothesis => exact .argument typed (inductionHypothesis second)

theorem of_passage {sql : String}
    (passage : Passage dialect.quoteCharacter permits start sql finish) :
    Composes dialect permits start [.text sql] finish := .text passage .nil

/-- The arguments of composed fragments are typed. -/
theorem typed (composes : Composes dialect permits start opening finish) :
    ∀ argument ∈ supplied opening, IsTyped argument := by
  induction composes with
  | nil => exact fun _ member => (by cases member)
  | idle => exact fun _ member => (by cases member)
  | text _ _ inductionHypothesis => exact inductionHypothesis
  | argument typed _ inductionHypothesis =>
    intro argument member
    rcases List.mem_cons.mp member with rfl | later
    · exact typed
    · exact inductionHypothesis argument later

/-- Items between which a separator stands compose. -/
theorem separated {separator : String} {items : List (List Fragment)}
    (separates : Passage dialect.quoteCharacter permits .bound separator .free)
    (each : ∀ item ∈ items, Composes dialect permits .free item .bound) :
    Composes dialect permits .free (separated separator items) .bound := by
  induction items with
  | nil => exact .idle
  | cons item rest inductionHypothesis =>
    have first := each item List.mem_cons_self
    have later := inductionHypothesis fun other member => each other (List.mem_cons_of_mem _ member)
    cases rest with
    | nil => exact first
    | cons next others => exact first.append (.text separates later)

end Composes

/-! ### Markers -/

/-- Whether a token is the marker of an argument. -/
def Sql.Token.isMarker : Token → Bool
  | .marker _ => true
  | _ => false

/-- The markers of arguments in a text, each with the text that follows it. -/
def markers (quote : Char) (text : List Char) : List (List Char × List Char) :=
  (lex quote text).filterMap fun
    | (.marker text, following) => some (text, following)
    | _ => none

/-- A marker is the one for a position and is followed by the cast for an argument's kind. -/
def Marks (dialect : Dialect) (bound : Argument × Nat) (found : List Char × List Char) : Prop :=
  found.1 = (dialect.placeholder bound.2).toList ∧
    (dialect.bindCast bound.1.2).toList <+: found.2

/-- A marker stays what it is when more text follows. -/
theorem Marks.before {bound : Argument × Nat} {found : List Char × List Char}
    (marks : Marks dialect bound found) (later : List Char) :
    Marks dialect bound (found.1, found.2 ++ later) :=
  ⟨marks.1, marks.2.trans (List.prefix_append _ _)⟩

theorem markers_append {quote : Char} {start middle finish : Edge} {opening closing : List Char}
    (first : Flows quote start opening middle) (second : Flows quote middle closing finish) :
    markers quote (opening ++ closing) =
      (markers quote opening).map (fun found => (found.1, found.2 ++ closing)) ++
        markers quote closing := by
  unfold markers
  rw [lex_append first second, List.filterMap_append, before, List.filterMap_map,
    List.map_filterMap]
  refine congrArg (fun found => List.filterMap found (lex quote opening) ++ _) ?_
  funext each
  obtain ⟨token, following⟩ := each
  cases token <;> rfl

/-- Where no token is a marker, no markers are found. -/
theorem markers_eq_nil {quote : Char} {text : List Char}
    (unmarked : ∀ token ∈ tokens quote text, token.isMarker = false) : markers quote text = [] := by
  refine List.filterMap_eq_nil_iff.mpr fun each member => ?_
  obtain ⟨token, following⟩ := each
  have plain := unmarked token (List.mem_map.mpr ⟨_, member, rfl⟩)
  cases token with
  | marker text => cases plain
  | _ => rfl

section

variable {words : List String} {start finish : Edge} {permits : Token → Prop}

/-- A cast of a lawful dialect has no marker in it. -/
theorem Dialect.IsLawful.cast (lawful : dialect.IsLawful words) (kind : Kind) :
    Passage dialect.quoteCharacter (fun token => token.isMarker = false) .bound
      (dialect.bindCast kind) .bound := by
  refine .of_isPhrase lawful.quoteCharacter (fun token isBare => ?_) (lawful.bindCast kind)
  cases token with
  | marker text => cases isBare
  | _ => rfl

/-- What stands for an argument has one marker, with the cast after it. -/
theorem markers_argument (lawful : dialect.IsLawful words) (position : Nat) (kind : Kind) :
    Flows dialect.quoteCharacter .free
        ((dialect.placeholder position).toList ++ (dialect.bindCast kind).toList) .bound ∧
      markers dialect.quoteCharacter
        ((dialect.placeholder position).toList ++ (dialect.bindCast kind).toList) =
        [((dialect.placeholder position).toList, (dialect.bindCast kind).toList)] := by
  obtain ⟨read, flows⟩ := lex_marker lawful.quoteCharacter (lawful.isMarker position)
  have cast := lawful.cast kind
  refine ⟨flows.append cast.flows, ?_⟩
  rw [markers_append flows cast.flows, markers_eq_nil cast.permitted, markers, read]
  rfl

/-- Fragments that compose have a text with their edges. -/
theorem Composes.flows {fragments : List Fragment} (lawful : dialect.IsLawful words)
    (composes : Composes dialect permits start fragments finish) (bound : Nat) :
    Flows dialect.quoteCharacter start (written dialect bound fragments).toList finish := by
  induction composes generalizing bound with
  | nil => exact flows_nil
  | idle => exact flows_nil.relax
  | text passage _ inductionHypothesis =>
    rw [written, String.toList_append]
    exact passage.flows.append (inductionHypothesis bound)
  | argument _ _ inductionHypothesis =>
    rw [written, String.toList_append, String.toList_append]
    exact (markers_argument lawful (bound + 1) _).1.append (inductionHypothesis (bound + 1))

/-- If markers are permitted as well, the tokens of composed fragments all are. -/
theorem Composes.permitted {fragments : List Fragment} (lawful : dialect.IsLawful words)
    (bare : ∀ token : Token, token.isBare words = true → permits token)
    (marked : ∀ text, permits (.marker text))
    (composes : Composes dialect permits start fragments finish) (bound : Nat) :
    ∀ token ∈ tokens dialect.quoteCharacter (written dialect bound fragments).toList,
      permits token := by
  induction composes generalizing bound with
  | nil => exact fun _ member => (by cases member)
  | idle => exact fun _ member => (by cases member)
  | text passage later inductionHypothesis =>
    rw [written, String.toList_append, tokens_append passage.flows (later.flows lawful bound)]
    intro token member
    rcases List.mem_append.mp member with early | late
    · exact passage.permitted token early
    · exact inductionHypothesis bound token late
  | @argument _ argument _ _ later inductionHypothesis =>
    obtain ⟨read, flows⟩ := lex_marker lawful.quoteCharacter (lawful.isMarker (bound + 1))
    have cast : Passage dialect.quoteCharacter permits .bound (dialect.bindCast argument.2)
        .bound := .of_isPhrase lawful.quoteCharacter bare (lawful.bindCast argument.2)
    rw [written, String.toList_append, String.toList_append, List.append_assoc,
      tokens_append flows (cast.flows.append (later.flows lawful (bound + 1))),
      tokens_append cast.flows (later.flows lawful (bound + 1)), tokens, read]
    intro token member
    rcases List.mem_append.mp member with first | member
    · rw [List.mem_singleton.mp first]
      exact marked _
    · rcases List.mem_append.mp member with early | late
      · exact cast.permitted token early
      · exact inductionHypothesis (bound + 1) token late

/-- If no passage may have a marker in it, the markers of composed fragments are those of their
arguments, in order and numbered from the first that is free. -/
theorem Composes.marks {fragments : List Fragment} (lawful : dialect.IsLawful words)
    (unmarked : ∀ token, permits token → token.isMarker = false)
    (composes : Composes dialect permits start fragments finish) (bound : Nat) :
    List.Forall₂ (Marks dialect) ((supplied fragments).zipIdx (bound + 1))
      (markers dialect.quoteCharacter (written dialect bound fragments).toList) := by
  induction composes generalizing bound with
  | nil => exact .nil
  | idle => exact .nil
  | text passage later inductionHypothesis =>
    rw [written, String.toList_append, markers_append passage.flows (later.flows lawful bound),
      markers_eq_nil fun token member => unmarked token (passage.permitted token member)]
    exact inductionHypothesis bound
  | argument _ later inductionHypothesis =>
    obtain ⟨flows, found⟩ := markers_argument lawful (bound + 1) _
    rw [written, String.toList_append, String.toList_append,
      markers_append flows (later.flows lawful (bound + 1)), found, supplied, List.zipIdx_cons]
    exact .cons (Marks.before ⟨rfl, List.prefix_refl _⟩ _) (inductionHypothesis (bound + 1))

end

end RecordMapper
