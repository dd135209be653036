/-
This file says which texts can stand next to each other without a token running across the seam.
A text that ends with a complete token may be followed by anything; one that ends within a word or
a marker, or with the closing quote of a name, needs a separator next. Texts whose edges fit are
read one after the other. Everything that statements are made of has its edges and its tokens
determined here: fixed words, quoted names, numerals and markers.
-/

import RecordMapper.Dialect.Basic
import RecordMapper.Proofs.Sql.Lexer

namespace RecordMapper.Sql

open Pending

/-! ### Edges -/

/-- What is needed where two texts meet: nothing, or a separator after the seam. -/
inductive Edge
  | free
  | bound
  deriving DecidableEq

/-- Whether nothing that follows can belong to what is pending. -/
def Pending.isSettled : Pending → Bool
  | .nothing | .symbol _ => true
  | _ => false

/-- Whether what is pending is not the inside of a quoted name. -/
def Pending.isOutside : Pending → Bool
  | .name _ => false
  | _ => true

/-- Whether an edge allows something to be pending. -/
def Edge.allows : Edge → Pending → Bool
  | .free, pending => pending.isSettled
  | .bound, pending => pending.isOutside

/-- Whether a character ends whatever is pending, being no part of a token of several characters. -/
def isSeparator (character : Char) : Bool :=
  !isWordPart character && !isOperatorPart character && character != '$'

variable {quote : Char} {start middle finish : Edge} {pending : Pending}

theorem Edge.allows_nothing (edge : Edge) : edge.allows .nothing = true := by
  cases edge <;> rfl

theorem Edge.allows_bound_of_free (allowed : Edge.free.allows pending = true) :
    Edge.bound.allows pending = true := by
  cases pending <;> first | rfl | cases allowed

theorem extend?_of_settled {character : Char} (settled : pending.isSettled = true) :
    pending.extend? quote character = none := by
  cases pending <;> first | rfl | cases settled

theorem extend?_of_separator {character : Char} (separates : isSeparator character = true)
    (unquoted : character ≠ quote) (outside : pending.isOutside = true) :
    pending.extend? quote character = none := by
  simp only [isSeparator, Bool.and_eq_true, Bool.not_eq_true', bne_iff_ne] at separates
  obtain ⟨⟨noWord, noOperator⟩, noDollar⟩ := separates
  have noDigit : character.isDigit = false := by
    cases digit : character.isDigit with
    | false => rfl
    | true => simp [isWordPart, Char.isAlphanum, digit] at noWord
  cases pending with
  | name text => cases outside
  | nothing => rfl
  | symbol character => rfl
  | named text => simp [extend?, unquoted]
  | marker text => simp [extend?, noDigit]
  | word text => simp [extend?, noWord, noDollar]
  | operator text => simp [extend?, noOperator]

/-! ### Texts between edges -/

/-- After whatever its first edge allows, a text begins a token of its own, and it leaves pending
what its last edge allows. -/
def Flows (quote : Char) (start : Edge) (text : List Char) (finish : Edge) : Prop :=
  ∀ pending, start.allows pending = true →
    (∀ character ∈ text.head?, pending.extend? quote character = none) ∧
      finish.allows (after quote pending text) = true

theorem flows_nil : Flows quote start [] start :=
  fun _ allowed => ⟨fun _ member => (by cases member), allowed⟩

theorem Flows.append {opening closing : List Char} (first : Flows quote start opening middle)
    (second : Flows quote middle closing finish) :
    Flows quote start (opening ++ closing) finish := by
  intro pending allowed
  obtain ⟨fits, left⟩ := first pending allowed
  obtain ⟨fitsNext, leftNext⟩ := second _ left
  refine ⟨?_, by rw [after_append]; exact leftNext⟩
  cases opening with
  | nil => exact fitsNext
  | cons character rest => exact fits

/-- A text that may follow anything outside of names may follow what is settled. -/
theorem Flows.weaken {text : List Char} (flows : Flows quote .bound text finish) :
    Flows quote start text finish := by
  intro pending allowed
  cases start with
  | free => exact flows pending (Edge.allows_bound_of_free allowed)
  | bound => exact flows pending allowed

/-- A text that leaves nothing behind may be followed by a separator as well. -/
theorem Flows.relax {text : List Char} (flows : Flows quote start text .free) :
    Flows quote start text finish := by
  intro pending allowed
  obtain ⟨fits, left⟩ := flows pending allowed
  cases finish with
  | free => exact ⟨fits, left⟩
  | bound => exact ⟨fits, Edge.allows_bound_of_free left⟩

/-- Texts whose edges fit are read one after the other. -/
theorem lex_append {opening closing : List Char} (first : Flows quote start opening middle)
    (second : Flows quote middle closing finish) :
    lex quote (opening ++ closing) = before closing (lex quote opening) ++ lex quote closing :=
  scan_append (second _ (first .nothing start.allows_nothing).2).1

theorem tokens_append {opening closing : List Char} (first : Flows quote start opening middle)
    (second : Flows quote middle closing finish) :
    tokens quote (opening ++ closing) = tokens quote opening ++ tokens quote closing := by
  unfold tokens
  rw [lex_append first second, List.map_append, map_fst_before]

/-! ### Fixed words -/

/-- Whether a character may stand outside of quoted names in what the library writes itself. -/
def isPlain (character : Char) : Bool :=
  character.isAlphanum || " _?$=<>!,:()*-".toList.contains character

section

variable {other character : Char}

theorem start_of_unquoted (noQuote : character ≠ quote) (noOther : character ≠ other) :
    Pending.start quote character = Pending.start other character := by
  rw [Pending.start, Pending.start, if_neg noQuote, if_neg noOther]

theorem isOutside_start (noQuote : character ≠ quote) :
    (Pending.start quote character).isOutside = true := by
  rw [Pending.start, if_neg noQuote]
  repeat' split
  all_goals rfl

theorem extend?_of_unquoted (outside : pending.isOutside = true) (noQuote : character ≠ quote)
    (noOther : character ≠ other) :
    pending.extend? quote character = pending.extend? other character := by
  cases pending with
  | name text => cases outside
  | named text => rw [extend?, extend?, if_neg noQuote, if_neg noOther]
  | _ => rfl

theorem isOutside_of_extend? (outside : pending.isOutside = true) (noQuote : character ≠ quote)
    {further : Pending} (extended : pending.extend? quote character = some further) :
    further.isOutside = true := by
  cases pending with
  | name text => cases outside
  | named text =>
    rw [extend?, if_neg noQuote] at extended
    cases extended
  | nothing => cases extended
  | symbol text => cases extended
  | marker text | word text | operator text =>
    rw [extend?] at extended
    split at extended
    · cases extended
      rfl
    · cases extended

end

/-- Without quotes in it a text is read alike whatever the quote. -/
theorem scan_of_unquoted {other : Char} {text : List Char} (outside : pending.isOutside = true)
    (unquoted : ∀ character ∈ text, character ≠ quote ∧ character ≠ other) :
    scan quote pending text = scan other pending text ∧
      after quote pending text = after other pending text := by
  induction text generalizing pending with
  | nil => exact ⟨rfl, rfl⟩
  | cons character rest inductionHypothesis =>
    obtain ⟨noQuote, noOther⟩ := unquoted character List.mem_cons_self
    have restUnquoted := fun each member => unquoted each (List.mem_cons_of_mem _ member)
    have extended := extend?_of_unquoted outside noQuote noOther
    have started := start_of_unquoted noQuote noOther
    unfold after
    rw [scan, scan, List.foldl_cons, List.foldl_cons, advance, advance, started, extended]
    cases further : pending.extend? other character with
    | some next =>
      exact inductionHypothesis (isOutside_of_extend? outside noOther further) restUnquoted
    | none =>
      obtain ⟨sameScan, sameAfter⟩ := inductionHypothesis (isOutside_start noOther) restUnquoted
      exact ⟨congrArg (_ ++ ·) sameScan, sameAfter⟩

/-- Whether a fixed text is plain and has the given edges. -/
def isFitting (start : Edge) (text : List Char) (finish : Edge) : Bool :=
  text.all isPlain &&
    match text with
    | [] => start == .free || finish == .bound
    | first :: rest =>
      (start == .free || isSeparator first) && finish.allows (after '"' .nothing (first :: rest))

theorem isPlain_of_isFitting {text : List Char} (fitting : isFitting start text finish = true) :
    text.all isPlain = true := by
  unfold isFitting at fitting
  rw [Bool.and_eq_true] at fitting
  exact fitting.1

theorem ne_quote_of_isPlain {character : Char} (plainQuote : isPlain quote = false)
    (plain : isPlain character = true) : character ≠ quote := by
  rintro rfl
  rw [plain] at plainQuote
  cases plainQuote

theorem unquoted_of_isPlain {text : List Char} (plainQuote : isPlain quote = false)
    (plain : text.all isPlain = true) :
    ∀ character ∈ text, character ≠ quote ∧ character ≠ '"' := by
  intro character member
  have plainCharacter := List.all_eq_true.mp plain character member
  exact ⟨ne_quote_of_isPlain plainQuote plainCharacter,
    ne_quote_of_isPlain (by decide) plainCharacter⟩

/-- The tokens of a plain text are the same under every quote. -/
theorem tokens_of_isPlain {text : List Char} (plainQuote : isPlain quote = false)
    (plain : text.all isPlain = true) : tokens quote text = tokens '"' text :=
  congrArg (List.map Prod.fst)
    (scan_of_unquoted rfl (unquoted_of_isPlain plainQuote plain)).1

/-- A text that is found to fit has its edges under every quote. -/
theorem flows_of_isFitting {text : List Char} (plainQuote : isPlain quote = false)
    (fitting : isFitting start text finish = true) : Flows quote start text finish := by
  intro pending allowed
  unfold isFitting at fitting
  rw [Bool.and_eq_true] at fitting
  obtain ⟨plain, edges⟩ := fitting
  have unquoted := unquoted_of_isPlain plainQuote plain
  cases text with
  | nil =>
    refine ⟨fun _ member => (by cases member), ?_⟩
    cases start with
    | bound =>
      cases finish with
      | free => cases edges
      | bound => exact allowed
    | free =>
      cases finish with
      | free => exact allowed
      | bound => exact Edge.allows_bound_of_free allowed
  | cons first rest =>
    simp only [Bool.and_eq_true, Bool.or_eq_true, beq_iff_eq] at edges
    obtain ⟨opens, left⟩ := edges
    have ended : pending.extend? quote first = none := by
      rcases opens with rfl | separates
      · exact extend?_of_settled allowed
      · have outside : pending.isOutside = true := by
          cases start with
          | free => exact Edge.allows_bound_of_free allowed
          | bound => exact allowed
        exact extend?_of_separator separates (unquoted first List.mem_cons_self).1 outside
    refine ⟨fun character member => ?_, ?_⟩
    · cases member
      exact ended
    · have same : after quote pending (first :: rest) = after '"' .nothing (first :: rest) := by
        rw [← (scan_of_unquoted rfl unquoted).2, after, after, List.foldl_cons, List.foldl_cons,
          advance, advance, ended]
        rfl
      rw [same]
      exact left

/-! ### Names -/

/-- A name with every quote in it doubled. -/
def doubled (quote : Char) (name : List Char) : List Char :=
  name.flatMap fun character => if character == quote then [quote, quote] else [character]

theorem quotedName_eq (name : List Char) :
    quotedName quote name = [quote] ++ (doubled quote name ++ [quote]) := rfl

/-- The inside of a quoted name is read back. -/
theorem scan_doubled (read name : List Char) :
    scan quote (.name read) (doubled quote name ++ [quote]) = [(.name (read ++ name), [])] := by
  induction name generalizing read with
  | nil => simp [doubled, scan, extend?, Pending.closed, token?]
  | cons character rest inductionHypothesis =>
    rw [List.append_cons read, ← inductionHypothesis, doubled, List.flatMap_cons]
    by_cases isQuote : character = quote
    · subst isQuote
      simp [doubled, scan, extend?]
    · simp [doubled, scan, extend?, isQuote]

theorem after_doubled (read name : List Char) :
    after quote (.name read) (doubled quote name) = .name (read ++ name) := by
  induction name generalizing read with
  | nil => simp [doubled, after]
  | cons character rest inductionHypothesis =>
    rw [List.append_cons read, ← inductionHypothesis, doubled, List.flatMap_cons, after_append]
    by_cases isQuote : character = quote
    · subst isQuote
      simp [doubled, after, advance, extend?]
    · simp [doubled, after, advance, extend?, isQuote]

/-- A quoted name is read as one token, whatever characters the name has. -/
theorem lex_quotedName (name : List Char) :
    lex quote (quotedName quote name) = [(.name name, [])] := by
  have started : Pending.start quote quote = .name [] := if_pos rfl
  rw [lex, quotedName_eq, List.singleton_append, scan]
  simp only [extend?, started]
  exact scan_doubled [] name

/-- A quoted name leaves nothing pending but that one more quote would belong to it. -/
theorem after_quotedName (settled : pending.isSettled = true) (name : List Char) :
    after quote pending (quotedName quote name) = .named name := by
  have started : after quote pending [quote] = .name [] := by
    rw [after, List.foldl_cons, List.foldl_nil, advance, extend?_of_settled settled,
      Option.getD_none, Pending.start, if_pos rfl]
  have closed : after quote (.name name) [quote] = .named name := by simp [after, advance, extend?]
  rw [quotedName_eq, after_append, after_append, started, after_doubled, List.nil_append, closed]

theorem flows_quotedName (name : List Char) : Flows quote .free (quotedName quote name) .bound := by
  intro pending settled
  refine ⟨fun _ _ => extend?_of_settled settled, ?_⟩
  rw [after_quotedName settled]
  rfl

/-! ### Numerals and markers -/

section

variable {digits : List Char}

/-- A way of being pending to which every digit belongs. -/
def TakesDigits (make : List Char → Pending) : Prop :=
  ∀ quote text digit, digit.isDigit = true →
    (make text).extend? quote digit = some (make (text ++ [digit]))

theorem takesDigits_word : TakesDigits .word := by
  intro quote text digit isDigit
  simp [extend?, isWordPart, Char.isAlphanum, isDigit]

theorem takesDigits_marker : TakesDigits .marker := by
  intro quote text digit isDigit
  simp [extend?, isDigit]

theorem scan_digits {make : List Char → Pending} (takes : TakesDigits make)
    (areDigits : ∀ digit ∈ digits, digit.isDigit = true) (text : List Char) :
    scan quote (make text) digits = (make (text ++ digits)).closed [] ∧
      after quote (make text) digits = make (text ++ digits) := by
  induction digits generalizing text with
  | nil => exact ⟨by rw [List.append_nil, scan], by rw [List.append_nil, after, List.foldl_nil]⟩
  | cons digit rest inductionHypothesis =>
    have extended := takes quote text digit (areDigits digit List.mem_cons_self)
    have later := inductionHypothesis
      (fun each member => areDigits each (List.mem_cons_of_mem _ member)) (text ++ [digit])
    rw [List.append_cons, scan, extended, after, List.foldl_cons, advance, extended]
    exact later

theorem isWordPart_of_isDigit {digit : Char} (isDigit : digit.isDigit = true) :
    isWordPart digit = true := by
  rw [isWordPart, Char.isAlphanum, isDigit, Bool.or_true, Bool.true_or]

theorem isPlain_of_isDigit {digit : Char} (isDigit : digit.isDigit = true) :
    isPlain digit = true := by
  rw [isPlain, Char.isAlphanum, isDigit, Bool.or_true, Bool.true_or]

/-- A digit that begins a token begins a numeral. -/
theorem start_digit (plainQuote : isPlain quote = false) {digit : Char}
    (isDigit : digit.isDigit = true) : Pending.start quote digit = .word [digit] := by
  have noBlank : ¬ digit.isWhitespace = true := by
    intro blank
    simp only [Char.isWhitespace, Bool.or_eq_true, decide_eq_true_eq] at blank
    rcases blank with ((rfl | rfl) | rfl) | rfl <;> exact absurd isDigit (by decide)
  have noMarker : ¬ (digit == '?' || digit == '$') = true := by
    simp only [Bool.or_eq_true, beq_iff_eq]
    rintro (rfl | rfl) <;> exact absurd isDigit (by decide)
  rw [Pending.start, if_neg (ne_quote_of_isPlain plainQuote (isPlain_of_isDigit isDigit)),
    if_neg noBlank, if_neg noMarker, if_pos (isWordPart_of_isDigit isDigit)]

/-- A text that begins a token with its first character has the edges of what it leaves. -/
theorem flows_of_start {first : Char} {rest : List Char}
    (left : finish.allows (after quote (Pending.start quote first) rest) = true) :
    Flows quote .free (first :: rest) finish := by
  intro pending settled
  have ended (character : Char) : pending.extend? quote character = none :=
    extend?_of_settled settled
  refine ⟨fun character _ => ended character, ?_⟩
  rw [after, List.foldl_cons, advance, ended, Option.getD_none]
  exact left

/-- A run of digits is read as one word. -/
theorem lex_numeral (plainQuote : isPlain quote = false) (nonempty : digits ≠ [])
    (areDigits : ∀ digit ∈ digits, digit.isDigit = true) :
    lex quote digits = [(.word digits, [])] ∧ Flows quote .free digits .bound := by
  cases digits with
  | nil => exact absurd rfl nonempty
  | cons digit rest =>
    have started := start_digit plainQuote (areDigits digit List.mem_cons_self)
    obtain ⟨scanned, left⟩ := scan_digits takesDigits_word
      (fun each member => areDigits each (List.mem_cons_of_mem _ member)) [digit]
    refine ⟨?_, flows_of_start ?_⟩
    · rw [lex, scan, started]
      exact scanned
    · rw [started, left]
      rfl

/-- The marker of an argument: a question mark, with digits or without, or a dollar sign with
digits. -/
def IsMarker (text : List Char) : Prop :=
  ∃ mark digits, text = mark :: digits ∧ (mark = '?' ∨ mark = '$' ∧ digits ≠ []) ∧
    ∀ digit ∈ digits, digit.isDigit = true

/-- A marker is read as one. -/
theorem lex_marker (plainQuote : isPlain quote = false) {text : List Char}
    (isMarker : IsMarker text) :
    lex quote text = [(.marker text, [])] ∧ Flows quote .free text .bound := by
  obtain ⟨mark, digits, rfl, kind, areDigits⟩ := isMarker
  have started : Pending.start quote mark = .marker [mark] := by
    have noQuote : mark ≠ quote := by
      rcases kind with rfl | ⟨rfl, -⟩ <;> exact ne_quote_of_isPlain plainQuote (by decide)
    rcases kind with rfl | ⟨rfl, -⟩ <;> rw [Pending.start, if_neg noQuote] <;> rfl
  have token : Pending.token? (.marker (mark :: digits)) = some (.marker (mark :: digits)) := by
    rw [token?, if_neg]
    rcases kind with rfl | ⟨rfl, more⟩
    · intro equal
      cases equal
    · intro equal
      exact more (List.cons.inj equal).2
  obtain ⟨scanned, left⟩ := scan_digits takesDigits_marker areDigits [mark]
  refine ⟨?_, flows_of_start ?_⟩
  · rw [lex, scan]
    have closed : (Pending.marker (mark :: digits)).closed [] =
        [(.marker (mark :: digits), [])] := by
      rw [Pending.closed, token]
      rfl
    simp only [extend?, started]
    rw [scanned, List.singleton_append, closed]
    rfl
  · rw [started, left]
    rfl

end

end RecordMapper.Sql
