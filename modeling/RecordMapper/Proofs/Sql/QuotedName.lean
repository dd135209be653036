/-
This file proves that a quoted name ends where its closing quote stands, whatever characters the
name has. A quoted name is read from its opening quote on, with one character of lookahead: a
doubled quote is one quote of the name, and a single one closes it. The texts that can be read so
are just the quoted names with something behind them that begins with no quote. So a name is read
back as it is, no two names are quoted alike, and nothing that a name holds closes it early or takes
in what stands behind it. The lexer by which statements are read agrees.
-/

import RecordMapper.Proofs.Sql.Edges

namespace RecordMapper

namespace Sql

/-! ### Reading a quoted name -/

/-- The rest of a quoted name after its opening quote, and what follows the quote that closes it. -/
def nameWithin? (quote : Char) : List Char → Option (List Char × List Char)
  | [] => none
  | [last] => if last = quote then some ([], []) else none
  | first :: second :: others =>
    if first = quote then
      if second = quote then
        (nameWithin? quote others).map fun (name, following) => (quote :: name, following)
      else some ([], second :: others)
    else
      (nameWithin? quote (second :: others)).map fun (name, following) => (first :: name, following)

/-- The name that a text begins with in quotes, and what follows it. -/
def readName? (quote : Char) : List Char → Option (List Char × List Char)
  | [] => none
  | first :: rest => if first = quote then nameWithin? quote rest else none

example : readName? '"' "\"a\"\"\" b".toList = some ("a\"".toList, " b".toList) := by decide

variable {quote : Char} {name text following : List Char}

theorem doubled_cons_quote :
    doubled quote (quote :: name) = quote :: quote :: doubled quote name := by
  simp [doubled]

theorem doubled_cons_of_ne {character : Char} (different : character ≠ quote) :
    doubled quote (character :: name) = character :: doubled quote name := by
  simp [doubled, different]

theorem nameWithin?_cons_of_ne {character : Char} (different : character ≠ quote) :
    nameWithin? quote (character :: text) =
      (nameWithin? quote text).map fun (name, following) => (character :: name, following) := by
  cases text <;> simp [nameWithin?, different]

/-- A quote behind which no other stands closes the name. -/
theorem nameWithin?_closing (ends : following.head? ≠ some quote) :
    nameWithin? quote (quote :: following) = some ([], following) := by
  cases following with
  | nil => simp [nameWithin?]
  | cons next others =>
    have different : next ≠ quote := fun same => ends (congrArg some same)
    simp [nameWithin?, different]

/-- The inside of a quoted name is read back, whatever runs of quotes it has. -/
theorem nameWithin?_doubled (ends : following.head? ≠ some quote) (name : List Char) :
    nameWithin? quote (doubled quote name ++ quote :: following) = some (name, following) := by
  induction name with
  | nil => exact nameWithin?_closing ends
  | cons character rest inductionHypothesis =>
    by_cases isQuote : character = quote
    · subst isQuote
      rw [doubled_cons_quote, List.cons_append, List.cons_append, nameWithin?]
      simp [inductionHypothesis]
    · rw [doubled_cons_of_ne isQuote, List.cons_append, nameWithin?_cons_of_ne isQuote,
        inductionHypothesis]
      rfl

/-- Nothing else is read as the inside of a quoted name. -/
theorem eq_doubled_of_nameWithin? (read : nameWithin? quote text = some (name, following)) :
    text = doubled quote name ++ quote :: following ∧ following.head? ≠ some quote := by
  fun_induction nameWithin? quote text generalizing name following with
  | case1 => cases read
  | case2 =>
    cases read
    exact ⟨rfl, by simp⟩
  | case3 => cases read
  | case4 others inductionHypothesis =>
    obtain ⟨⟨inner, behind⟩, readInner, equal⟩ := Option.map_eq_some_iff.mp read
    cases equal
    obtain ⟨whole, ends⟩ := inductionHypothesis readInner
    rw [whole, doubled_cons_quote]
    exact ⟨rfl, ends⟩
  | case5 second others different =>
    cases read
    exact ⟨rfl, fun same => different (Option.some_inj.mp same)⟩
  | case6 first second others different inductionHypothesis =>
    obtain ⟨⟨inner, behind⟩, readInner, equal⟩ := Option.map_eq_some_iff.mp read
    cases equal
    obtain ⟨whole, ends⟩ := inductionHypothesis readInner
    rw [whole, doubled_cons_of_ne different]
    exact ⟨rfl, ends⟩

/-- What is read as a quoted name and what follows it is just that. -/
theorem readName?_eq_some_iff : readName? quote text = some (name, following) ↔
    text = quotedName quote name ++ following ∧ following.head? ≠ some quote := by
  have quoted : quotedName quote name ++ following =
      quote :: (doubled quote name ++ quote :: following) := by
    simp [quotedName_eq]
  rw [quoted]
  cases text with
  | nil => simp [readName?]
  | cons first rest =>
    rw [readName?]
    constructor
    · intro read
      split at read
      · rename_i isQuote
        obtain ⟨whole, ends⟩ := eq_doubled_of_nameWithin? read
        exact ⟨by rw [isQuote, whole], ends⟩
      · cases read
    · rintro ⟨whole, ends⟩
      obtain ⟨rfl, rfl⟩ := List.cons.inj whole
      rw [if_pos rfl, nameWithin?_doubled ends]

/-- The lexer reads a quoted name as one token and goes on behind it. -/
theorem lex_quotedName_append (ends : following.head? ≠ some quote) (name : List Char) :
    lex quote (quotedName quote name ++ following) =
      (.name name, following) :: lex quote following := by
  have seam : ∀ character ∈ following.head?,
      (Pending.after quote .nothing (quotedName quote name)).extend? quote character = none := by
    intro character member
    have different : character ≠ quote := fun same => ends (same ▸ member)
    rw [after_quotedName rfl, Pending.extend?, if_neg different]
  have whole : scan quote .nothing (quotedName quote name ++ following) = _ := scan_append seam
  rw [lex, whole, ← lex, lex_quotedName]
  rfl

end Sql

open Sql

/-! ### Quoting -/

/-- What it means that quoting with a dialect cannot be escaped from. -/
structure Dialect.QuotesSafely (dialect : Dialect) : Prop where
  /-- A quoted name is read back and what follows it left as it is, whatever that is, unless it
  begins with a quote. -/
  readsBack : ∀ name following,
    readName? dialect.quoteCharacter ((dialect.quote name).toList ++ following) =
        some (name.toList, following) ↔
      following.head? ≠ some dialect.quoteCharacter
  /-- Whatever is read as a name is the name in quotes. -/
  readsOnly : ∀ text name following,
    readName? dialect.quoteCharacter text = some (name, following) ↔
      text = (dialect.quote (String.ofList name)).toList ++ following ∧
        following.head? ≠ some dialect.quoteCharacter
  /-- No two names are quoted alike. -/
  injective : Function.Injective dialect.quote
  /-- No name with something behind it looks like another name with something else behind it. -/
  apart : ∀ name following other behind,
    following.head? ≠ some dialect.quoteCharacter → behind.head? ≠ some dialect.quoteCharacter →
      (dialect.quote name).toList ++ following = (dialect.quote other).toList ++ behind →
        name = other ∧ following = behind
  /-- Within a statement a quoted name is one token, and the rest is read as it is by itself. -/
  lexes : ∀ name following, following.head? ≠ some dialect.quoteCharacter →
    lex dialect.quoteCharacter ((dialect.quote name).toList ++ following) =
      (.name name.toList, following) :: lex dialect.quoteCharacter following

namespace Dialect

variable {dialect : Dialect}

theorem toList_quote (name : String) :
    (dialect.quote name).toList = quotedName dialect.quoteCharacter name.toList :=
  String.toList_ofList

/-- A quoted name is read back if no quote follows it. -/
theorem readName?_quote_append (name : String) (following : List Char) :
    readName? dialect.quoteCharacter ((dialect.quote name).toList ++ following) =
        some (name.toList, following) ↔
      following.head? ≠ some dialect.quoteCharacter := by
  rw [toList_quote, readName?_eq_some_iff]
  exact and_iff_right rfl

/-- What is read as a name is the name in quotes. -/
theorem readName?_eq_some {text name following : List Char} :
    readName? dialect.quoteCharacter text = some (name, following) ↔
      text = (dialect.quote (String.ofList name)).toList ++ following ∧
        following.head? ≠ some dialect.quoteCharacter := by
  rw [readName?_eq_some_iff, toList_quote, String.toList_ofList]

theorem quotesSafely (dialect : Dialect) : dialect.QuotesSafely := by
  have apart (name : String) (following : List Char) (other : String) (behind : List Char)
      (ends : following.head? ≠ some dialect.quoteCharacter)
      (endsToo : behind.head? ≠ some dialect.quoteCharacter)
      (same : (dialect.quote name).toList ++ following =
        (dialect.quote other).toList ++ behind) : name = other ∧ following = behind := by
    have read := (readName?_quote_append name following).mpr ends
    rw [same, (readName?_quote_append other behind).mpr endsToo] at read
    obtain ⟨sameName, sameRest⟩ := Prod.mk.inj (Option.some_inj.mp read)
    exact ⟨String.toList_inj.mp sameName.symm, sameRest.symm⟩
  refine
    { readsBack := readName?_quote_append
      readsOnly := fun text name following => readName?_eq_some
      injective := fun name other same => ?_
      apart
      lexes := fun name following ends => ?_ }
  · exact (apart name [] other [] (by simp) (by simp) (by rw [same])).1
  · rw [toList_quote, lex_quotedName_append ends]

end Dialect

end RecordMapper
