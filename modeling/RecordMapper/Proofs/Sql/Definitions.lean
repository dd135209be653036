/-
This file reads what the texts of a table's creation declare. A definition in a table is a column if
it begins with a quoted name, and otherwise a key or an index over names in parentheses; a statement
of its own creates an index on a table, unless there is one. Names are read by their quotes alone.
What is read as a key or an index is what is written for one and nothing else, whatever characters
its names have.
-/

import RecordMapper.Migration.Table
import RecordMapper.Proofs.Sql.QuotedName
import RecordMapper.Proofs.Text.Pieces

namespace RecordMapper

namespace Sql

open Text

/-! ### Names side by side -/

theorem length_of_readName? {quote : Char} {text name following : List Char}
    (read : readName? quote text = some (name, following)) : following.length < text.length := by
  rw [(readName?_eq_some_iff.mp read).1, quotedName_eq]
  simp
  omega

/-- The names that a text begins with, in quotes and with commas between them, and what follows
them. -/
def readNames? (quote : Char) (text : List Char) : Option (List String × List Char) :=
  match _read : readName? quote text with
  | none => none
  | some (name, following) =>
    match _continues : withoutOpening [',', ' '] following with
    | none => some ([String.ofList name], following)
    | some rest =>
      (readNames? quote rest).map fun (names, behind) => (String.ofList name :: names, behind)
termination_by text.length
decreasing_by
  have shorter := length_of_readName? _read
  rw [withoutOpening_eq_some.mp _continues] at shorter
  simp at shorter
  omega

theorem readNames?_of_last {quote : Char} {text name following : List Char}
    (read : readName? quote text = some (name, following))
    (ends : withoutOpening [',', ' '] following = none) :
    readNames? quote text = some ([String.ofList name], following) := by
  rw [readNames?]
  split
  · simp_all
  · split <;> simp_all

theorem readNames?_of_comma {quote : Char} {text name rest : List Char}
    (read : readName? quote text = some (name, ',' :: ' ' :: rest)) :
    readNames? quote text =
      (readNames? quote rest).map fun (names, behind) => (String.ofList name :: names, behind) := by
  have continues : withoutOpening [',', ' '] (',' :: ' ' :: rest) = some rest := rfl
  rw [readNames?]
  split
  · simp_all
  · split <;> simp_all

/-- The names that a text has in parentheses, if it has nothing else. -/
def readColumns? (quote : Char) (text : List Char) : Option (List String) := do
  let inner ← withoutOpening ['('] text
  let (names, following) ← readNames? quote inner
  if following = [')'] then some names else none

/-! ### Definitions -/

/-- What a definition in a table declares. -/
inductive Definition
  | column (name : String)
  | key (columns : List String)
  | index (index : Index)
  deriving DecidableEq

/-- Whether a text begins with the word for a unique or for a plain index, and what follows it. -/
def readWord? (text : List Char) : Option (Bool × List Char) :=
  ((withoutOpening "UNIQUE INDEX ".toList text).map fun rest => (true, rest)).or
    ((withoutOpening "INDEX ".toList text).map fun rest => (false, rest))

def readColumn? (quote : Char) (text : List Char) : Option Definition := do
  let (name, following) ← readName? quote text
  let _ ← withoutOpening [' '] following
  return .column (String.ofList name)

def readKey? (quote : Char) (text : List Char) : Option Definition := do
  let columns ← withoutOpening "PRIMARY KEY ".toList text
  return .key (← readColumns? quote columns)

def readIndex? (quote : Char) (text : List Char) : Option Definition := do
  let (isUnique, rest) ← readWord? text
  let (name, following) ← readName? quote rest
  let columns ← withoutOpening [' '] following
  return .index ⟨String.ofList name, isUnique, ← readColumns? quote columns⟩

/-- What a definition in a table declares, by the text of the definition. -/
def readDefinition? (quote : Char) (text : List Char) : Option Definition :=
  (readColumn? quote text).or ((readKey? quote text).or (readIndex? quote text))

/-- The index that a statement creates unless there is one, and its table. -/
def readIndexStatement? (quote : Char) (text : List Char) : Option (Index × String) := do
  let creates ← withoutOpening "CREATE ".toList text
  let (isUnique, rest) ← readWord? creates
  let named ← withoutOpening "IF NOT EXISTS ".toList rest
  let (name, following) ← readName? quote named
  let placed ← withoutOpening " ON ".toList following
  let (table, behind) ← readName? quote placed
  let columns ← withoutOpening [' '] behind
  return (⟨String.ofList name, isUnique, ← readColumns? quote columns⟩, String.ofList table)

end Sql

open Sql Text

/-! ### What is read is what is written -/

section

variable {dialect : Dialect} {names : List String} {text following : List Char}

theorem toList_quoteAll_cons (name : String) (nonempty : names ≠ []) :
    (dialect.quoteAll (name :: names)).toList =
      (dialect.quote name).toList ++ ',' :: ' ' :: (dialect.quoteAll names).toList := by
  obtain ⟨next, others, rfl⟩ := List.exists_cons_of_ne_nil nonempty
  simp [Dialect.quoteAll]

theorem toList_quoteAll_singleton (name : String) :
    (dialect.quoteAll [name]).toList = (dialect.quote name).toList := by
  simp [Dialect.quoteAll]

/-- What is read as names is names in quotes, at least one. -/
theorem eq_quoteAll_of_readNames?
    (read : readNames? dialect.quoteCharacter text = some (names, following)) :
    names ≠ [] ∧ text = (dialect.quoteAll names).toList ++ following := by
  generalize isQuote : dialect.quoteCharacter = quote at read
  fun_induction readNames? quote text generalizing names following with
  | case1 => cases read
  | case2 text name behind found _ =>
    cases read
    subst isQuote
    refine ⟨List.cons_ne_nil _ _, ?_⟩
    rw [toList_quoteAll_singleton]
    exact (Dialect.readName?_eq_some.mp found).1
  | case3 text name behind found rest continues inductionHypothesis =>
    obtain ⟨⟨others, ends⟩, readRest, equal⟩ := Option.map_eq_some_iff.mp read
    cases equal
    subst isQuote
    obtain ⟨nonempty, whole⟩ := inductionHypothesis readRest
    refine ⟨List.cons_ne_nil _ _, ?_⟩
    rw [(Dialect.readName?_eq_some.mp found).1,
      withoutOpening_eq_some.mp continues, whole, toList_quoteAll_cons _ nonempty]
    simp

/-- A text that does not begin with a quote is no column. -/
theorem readColumn?_eq_none {quote first : Char} {rest : List Char} (different : first ≠ quote) :
    readColumn? quote (first :: rest) = none := by
  simp [readColumn?, readName?, different]

theorem readName?_quote (name : String) {next : Char} (different : next ≠ dialect.quoteCharacter)
    (following : List Char) :
    readName? dialect.quoteCharacter ((dialect.quote name).toList ++ next :: following) =
      some (name.toList, next :: following) :=
  (Dialect.readName?_quote_append name _).mpr fun same => different (Option.some_inj.mp same)

variable (plain : isPlain dialect.quoteCharacter = false)

include plain

/-- Names in quotes are read back up to the parenthesis that closes them. -/
theorem readNames?_quoteAll (nonempty : names ≠ []) (following : List Char) :
    readNames? dialect.quoteCharacter ((dialect.quoteAll names).toList ++ ')' :: following) =
      some (names, ')' :: following) := by
  have closes : ')' ≠ dialect.quoteCharacter := ne_quote_of_isPlain plain (by decide)
  have comma : ',' ≠ dialect.quoteCharacter := ne_quote_of_isPlain plain (by decide)
  induction names with
  | nil => exact absurd rfl nonempty
  | cons name rest inductionHypothesis =>
    cases rest with
    | nil =>
      rw [toList_quoteAll_singleton, readNames?_of_last (readName?_quote name closes following)
        (by rfl), String.ofList_toList]
    | cons next others =>
      rw [toList_quoteAll_cons name (List.cons_ne_nil _ _), List.append_assoc, List.cons_append,
        List.cons_append, readNames?_of_comma (readName?_quote name comma _),
        inductionHypothesis (List.cons_ne_nil _ _), String.ofList_toList]
      rfl

theorem readColumns?_eq_some : readColumns? dialect.quoteCharacter text = some names ↔
    names ≠ [] ∧ text = '(' :: ((dialect.quoteAll names).toList ++ [')']) := by
  simp only [readColumns?, Option.bind_eq_bind, Option.bind_eq_some_iff, withoutOpening_eq_some,
    Option.ite_none_right_eq_some]
  constructor
  · rintro ⟨inner, rfl, ⟨found, following⟩, read, rfl, equal⟩
    cases equal
    obtain ⟨nonempty, whole⟩ := eq_quoteAll_of_readNames? read
    exact ⟨nonempty, by rw [whole]; rfl⟩
  · rintro ⟨nonempty, rfl⟩
    exact ⟨_, rfl, (names, [')']), readNames?_quoteAll plain nonempty [], rfl, rfl⟩

omit plain in
/-- The word before an index tells its uniqueness. -/
theorem readWord?_eq_some {isUnique : Bool} : readWord? text = some (isUnique, following) ↔
    text = (if isUnique then "UNIQUE INDEX " else "INDEX ").toList ++ following := by
  simp only [readWord?, Option.or_eq_some_iff, Option.map_eq_some_iff, Option.map_eq_none_iff,
    withoutOpening_eq_some, Prod.mk.injEq]
  cases isUnique with
  | true => simp
  | false =>
    simp only [Bool.true_eq_false, false_and, and_false, exists_false, false_or]
    constructor
    · rintro ⟨-, rest, whole, -, rfl⟩
      exact whole
    · rintro rfl
      exact ⟨rfl, following, rfl, trivial, rfl⟩

/-- A column begins with its quoted name. -/
theorem readColumn?_eq_some {definition : Definition} :
    readColumn? dialect.quoteCharacter text = some definition ↔
      ∃ name following, definition = .column name ∧
        text = (dialect.quote name).toList ++ ' ' :: following := by
  have blank : ' ' ≠ dialect.quoteCharacter := ne_quote_of_isPlain plain (by decide)
  simp only [readColumn?, Option.bind_eq_bind, Option.bind_eq_some_iff, withoutOpening_eq_some,
    Option.pure_def, Option.some_inj]
  constructor
  · rintro ⟨⟨name, following⟩, read, rest, rfl, rfl⟩
    exact ⟨_, rest, rfl, (Dialect.readName?_eq_some.mp read).1⟩
  · rintro ⟨name, rest, rfl, rfl⟩
    exact ⟨_, readName?_quote name blank rest, rest, rfl, by rw [String.ofList_toList]⟩

/-- A key is the words for it and names in parentheses. -/
theorem readKey?_eq_some {definition : Definition} :
    readKey? dialect.quoteCharacter text = some definition ↔
      ∃ names, definition = .key names ∧ names ≠ [] ∧
        text = ("PRIMARY KEY (" ++ dialect.quoteAll names ++ ")").toList := by
  simp only [readKey?, Option.bind_eq_bind, Option.bind_eq_some_iff, withoutOpening_eq_some,
    readColumns?_eq_some plain, Option.pure_def, Option.some_inj]
  constructor
  · rintro ⟨_, rfl, names, ⟨nonempty, rfl⟩, rfl⟩
    exact ⟨names, rfl, nonempty, by simp⟩
  · rintro ⟨names, rfl, nonempty, rfl⟩
    exact ⟨_, by simp, names, ⟨nonempty, rfl⟩, rfl⟩

/-- An index is its word, its name and its columns. -/
theorem readIndex?_eq_some {definition : Definition} :
    readIndex? dialect.quoteCharacter text = some definition ↔
      ∃ index, definition = .index index ∧ index.columns ≠ [] ∧
        text = (inlineIndex dialect index).toList := by
  have blank : ' ' ≠ dialect.quoteCharacter := ne_quote_of_isPlain plain (by decide)
  simp only [readIndex?, Option.bind_eq_bind, Option.bind_eq_some_iff, withoutOpening_eq_some,
    readColumns?_eq_some plain, Option.pure_def, Option.some_inj]
  constructor
  · rintro ⟨⟨isUnique, rest⟩, worded, ⟨name, following⟩, named, _, rfl, columns, ⟨nonempty, rfl⟩,
      rfl⟩
    refine ⟨_, rfl, nonempty, ?_⟩
    dsimp only at named
    rw [readWord?_eq_some.mp worded, (Dialect.readName?_eq_some.mp named).1]
    simp [inlineIndex, Index.word]
  · rintro ⟨⟨name, isUnique, columns⟩, rfl, nonempty, rfl⟩
    refine ⟨(isUnique, (dialect.quote name).toList ++
        ' ' :: '(' :: ((dialect.quoteAll columns).toList ++ [')'])),
      readWord?_eq_some.mpr ?_, _, readName?_quote name blank _, _, rfl, columns, ⟨nonempty, rfl⟩,
      ?_⟩
    · simp [inlineIndex, Index.word]
    · rw [String.ofList_toList]

/-- The statement that creates an index is read as the index and its table. -/
theorem readIndexStatement?_eq_some {model : Model} {index : Index} :
    readIndexStatement? dialect.quoteCharacter text = some (index, model.table) ↔
      index.columns ≠ [] ∧ text = (indexStatement model dialect index).toList := by
  have blank : ' ' ≠ dialect.quoteCharacter := ne_quote_of_isPlain plain (by decide)
  simp only [readIndexStatement?, Option.bind_eq_bind, Option.bind_eq_some_iff,
    withoutOpening_eq_some, readColumns?_eq_some plain, Option.pure_def, Option.some_inj,
    Prod.mk.injEq]
  constructor
  · rintro ⟨_, rfl, ⟨isUnique, rest⟩, worded, named, rfl, ⟨name, following⟩, readName, _, rfl,
      ⟨table, behind⟩, readTable, _, rfl, columns, ⟨nonempty, rfl⟩, rfl, isTable⟩
    refine ⟨nonempty, ?_⟩
    rw [readWord?_eq_some.mp worded, (Dialect.readName?_eq_some.mp readName).1,
      (Dialect.readName?_eq_some.mp readTable).1, isTable]
    simp [indexStatement, Index.word]
  · obtain ⟨name, isUnique, columns⟩ := index
    rintro ⟨nonempty, rfl⟩
    have whole : (indexStatement model dialect ⟨name, isUnique, columns⟩).toList =
        "CREATE ".toList ++ ((if isUnique then "UNIQUE INDEX " else "INDEX ").toList ++
          ("IF NOT EXISTS ".toList ++ ((dialect.quote name).toList ++
            ' ' :: ("ON ".toList ++ ((dialect.quote model.table).toList ++
              ' ' :: '(' :: ((dialect.quoteAll columns).toList ++ [')'])))))) := by
      simp [indexStatement, Index.word]
    refine ⟨_, whole, (isUnique, _), readWord?_eq_some.mpr rfl, _, rfl, _,
      readName?_quote name blank _, _, rfl, _, readName?_quote model.table blank _, _, rfl, columns,
      ⟨nonempty, rfl⟩, ?_, ?_⟩
    · rw [String.ofList_toList]
    · rw [String.ofList_toList]

theorem readDefinition?_eq_column {name : String} :
    readDefinition? dialect.quoteCharacter text = some (.column name) ↔
      ∃ following, text = (dialect.quote name).toList ++ ' ' :: following := by
  simp [readDefinition?, readColumn?_eq_some plain, readKey?_eq_some plain,
    readIndex?_eq_some plain, Option.or_eq_some_iff]

theorem readDefinition?_eq_key :
    readDefinition? dialect.quoteCharacter text = some (.key names) ↔
      names ≠ [] ∧ text = ("PRIMARY KEY (" ++ dialect.quoteAll names ++ ")").toList := by
  rw [readDefinition?, Option.or_eq_some_iff, Option.or_eq_some_iff]
  constructor
  · rintro (column | ⟨-, key | ⟨-, index⟩⟩)
    · obtain ⟨_, _, ⟨⟩, _⟩ := (readColumn?_eq_some plain).mp column
    · obtain ⟨_, equal, nonempty, whole⟩ := (readKey?_eq_some plain).mp key
      cases equal
      exact ⟨nonempty, whole⟩
    · obtain ⟨_, ⟨⟩, _⟩ := (readIndex?_eq_some plain).mp index
  · rintro ⟨nonempty, rfl⟩
    refine .inr ⟨?_, .inl ((readKey?_eq_some plain).mpr ⟨names, rfl, nonempty, rfl⟩)⟩
    rw [String.append_assoc, String.toList_append]
    exact readColumn?_eq_none (ne_quote_of_isPlain plain (by decide : isPlain 'P' = true))

theorem readDefinition?_eq_index {index : Index} :
    readDefinition? dialect.quoteCharacter text = some (.index index) ↔
      index.columns ≠ [] ∧ text = (inlineIndex dialect index).toList := by
  rw [readDefinition?, Option.or_eq_some_iff, Option.or_eq_some_iff]
  constructor
  · rintro (column | ⟨-, key | ⟨-, index⟩⟩)
    · obtain ⟨_, _, ⟨⟩, _⟩ := (readColumn?_eq_some plain).mp column
    · obtain ⟨_, ⟨⟩, _⟩ := (readKey?_eq_some plain).mp key
    · obtain ⟨_, equal, nonempty, whole⟩ := (readIndex?_eq_some plain).mp index
      cases equal
      exact ⟨nonempty, whole⟩
  · rintro ⟨nonempty, rfl⟩
    refine .inr ⟨?_, .inr ⟨?_, (readIndex?_eq_some plain).mpr ⟨index, rfl, nonempty, rfl⟩⟩⟩ <;>
      rw [inlineIndex, String.append_assoc, String.append_assoc, String.append_assoc,
        String.toList_append] <;> unfold Index.word <;> cases index.isUnique
    · exact readColumn?_eq_none (ne_quote_of_isPlain plain (by decide : isPlain 'I' = true))
    · exact readColumn?_eq_none (ne_quote_of_isPlain plain (by decide : isPlain 'U' = true))
    · rfl
    · rfl

end

end RecordMapper
