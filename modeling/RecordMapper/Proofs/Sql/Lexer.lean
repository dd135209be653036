/-
This file reads a text in SQL as tokens. A name stands between quotes, of which those inside are
doubled; a marker of an argument is a question mark, or a question mark or a dollar sign with a
number; words and numerals are runs of letters and digits. The reader goes from left to right and
remembers only the token that is still pending, so a text in two parts is read as its parts are,
provided that no token runs across the seam. With each token the reader gives the text that
follows it.
-/

namespace RecordMapper.Sql

/-! ### Tokens -/

/-- A token of a text in SQL. -/
inductive Token
  /-- A quoted name, without the quotes around it and with single ones inside. -/
  | name (name : List Char)
  /-- A quoted name whose closing quote is missing. -/
  | openName (name : List Char)
  /-- The marker of an argument. -/
  | marker (text : List Char)
  /-- A key word, an unquoted name or a numeral. -/
  | word (text : List Char)
  | operator (text : List Char)
  | symbol (character : Char)
  deriving DecidableEq

/-- Whether a character is part of words. -/
def isWordPart (character : Char) : Bool :=
  character.isAlphanum || character == '_'

/-- Whether a character is part of operators. -/
def isOperatorPart (character : Char) : Bool :=
  character == '=' || character == '<' || character == '>' || character == '!'

/-- What has been read of a token that is not yet complete. -/
inductive Pending
  | nothing
  /-- The inside of a quoted name. -/
  | name (name : List Char)
  /-- A quoted name up to a quote that closes it, unless another quote follows. -/
  | named (name : List Char)
  | marker (text : List Char)
  | word (text : List Char)
  | operator (text : List Char)
  | symbol (character : Char)
  deriving DecidableEq

namespace Pending

/-- What is pending after the first character of a token. -/
def start (quote character : Char) : Pending :=
  if character = quote then .name []
  else if character.isWhitespace then .nothing
  else if character == '?' || character == '$' then .marker [character]
  else if isWordPart character then .word [character]
  else if isOperatorPart character then .operator [character]
  else .symbol character

/-- What is pending after one more character, if the character belongs to the same token. -/
def extend? (quote : Char) (pending : Pending) (character : Char) : Option Pending :=
  match pending with
  | .nothing => none
  | .name text =>
    if character = quote then some (.named text) else some (.name (text ++ [character]))
  | .named text => if character = quote then some (.name (text ++ [character])) else none
  | .marker text => if character.isDigit then some (.marker (text ++ [character])) else none
  | .word text =>
    if isWordPart character || character == '$' then some (.word (text ++ [character])) else none
  | .operator text =>
    if isOperatorPart character then some (.operator (text ++ [character])) else none
  | .symbol _ => none

/-- What is pending after one more character. -/
def advance (quote : Char) (pending : Pending) (character : Char) : Pending :=
  (pending.extend? quote character).getD (start quote character)

/-- What is pending after a text. -/
def after (quote : Char) (pending : Pending) (text : List Char) : Pending :=
  text.foldl (advance quote) pending

/-- The token that ends here, if any. A dollar sign without a number is no marker. -/
def token? : Pending → Option Token
  | .nothing => none
  | .name text => some (.openName text)
  | .named text => some (.name text)
  | .marker text => some (if text = ['$'] then .symbol '$' else .marker text)
  | .word text => some (.word text)
  | .operator text => some (.operator text)
  | .symbol character => some (.symbol character)

/-- The token that ends before a text, if any, together with that text. -/
def closed (pending : Pending) (following : List Char) : List (Token × List Char) :=
  (pending.token?.map fun token => (token, following)).toList

end Pending

open Pending

/-- The tokens of a text, the first of which may be pending, each with the text after it. -/
def scan (quote : Char) (pending : Pending) : List Char → List (Token × List Char)
  | [] => pending.closed []
  | character :: rest =>
    match pending.extend? quote character with
    | some further => scan quote further rest
    | none => pending.closed (character :: rest) ++ scan quote (start quote character) rest

/-- The tokens of a text, each with the text after it. -/
def lex (quote : Char) (text : List Char) : List (Token × List Char) :=
  scan quote .nothing text

/-- The tokens of a text. -/
def tokens (quote : Char) (text : List Char) : List Token :=
  (lex quote text).map Prod.fst

example : tokens '"' "\"a\"\"?\" <= $12::UUID, ?".toList =
    [.name "a\"?".toList, .operator "<=".toList, .marker "$12".toList, .symbol ':', .symbol ':',
      .word "UUID".toList, .symbol ',', .marker "?".toList] := by decide

/-! ### Texts in parts -/

/-- Tokens as they are when more text follows. -/
def before (later : List Char) (found : List (Token × List Char)) : List (Token × List Char) :=
  found.map fun each => (each.1, each.2 ++ later)

variable {quote : Char} {pending : Pending}

theorem after_append (opening closing : List Char) :
    after quote pending (opening ++ closing) = after quote (after quote pending opening) closing :=
  List.foldl_append

theorem before_append (later : List Char) (first second : List (Token × List Char)) :
    before later (first ++ second) = before later first ++ before later second :=
  List.map_append

theorem before_nil (found : List (Token × List Char)) : before [] found = found := by
  simp only [before, List.append_nil, List.map_id']

theorem before_closed (pending : Pending) (later following : List Char) :
    before later (pending.closed following) = pending.closed (following ++ later) := by
  unfold Pending.closed
  cases pending.token? <;> rfl

theorem map_fst_before (later : List Char) (found : List (Token × List Char)) :
    (before later found).map Prod.fst = found.map Prod.fst := by
  unfold before
  rw [List.map_map]
  rfl

/-- A character that does not belong to what is pending begins a token of its own. -/
theorem scan_cons_of_ended {character : Char} {rest : List Char}
    (ended : pending.extend? quote character = none) :
    scan quote pending (character :: rest) =
      pending.closed (character :: rest) ++ lex quote (character :: rest) := by
  rw [scan, ended]
  rfl

/-- A text in two parts has the tokens of its parts, if no token runs across the seam. -/
theorem scan_append {opening closing : List Char}
    (seam : ∀ character ∈ closing.head?,
      (after quote pending opening).extend? quote character = none) :
    scan quote pending (opening ++ closing) =
      before closing (scan quote pending opening) ++ lex quote closing := by
  induction opening generalizing pending with
  | nil =>
    cases closing with
    | nil =>
      rw [before_nil]
      exact (List.append_nil _).symm
    | cons character rest =>
      have ended : pending.extend? quote character = none := seam character rfl
      rw [List.nil_append, scan_cons_of_ended ended]
      exact congrArg (· ++ _) (before_closed pending (character :: rest) []).symm
  | cons character rest inductionHypothesis =>
    rw [List.cons_append, scan, scan]
    cases extended : pending.extend? quote character with
    | some further =>
      refine inductionHypothesis ?_
      rw [after, List.foldl_cons, advance, extended] at seam
      exact seam
    | none =>
      simp only
      rw [inductionHypothesis, before_append, before_closed, List.append_assoc, List.cons_append]
      rw [after, List.foldl_cons, advance, extended] at seam
      exact seam

end RecordMapper.Sql
