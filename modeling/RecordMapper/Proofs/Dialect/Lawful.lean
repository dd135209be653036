/-
This file says what is expected of a dialect whose statements are to be read back. Its quote does
not occur outside of names, its markers are markers, a cast is a word after two colons, and what it
adds to a statement elsewhere consists of plain words that fit where they stand. The dialects of
the library keep to this.
-/

import RecordMapper.Dialect.Plain
import RecordMapper.Dialect.Registry
import RecordMapper.Proofs.Sql.Edges
import RecordMapper.Proofs.Text.Digits

namespace RecordMapper

open Sql Text

/-! ### Phrases -/

/-- Whether a token is one of some words, a numeral, or neither a word nor a name nor a marker. The
colon, of which casts are made, counts as a word. -/
def Sql.Token.isBare (words : List String) : Token → Bool
  | .word text => words.contains (String.ofList text) || text.all Char.isDigit
  | .symbol character => words.contains ":" || character != ':'
  | .operator _ => true
  | .name _ | .openName _ | .marker _ => false

/-- Whether a fixed text is made of some words, numerals and symbols and has the given edges. -/
def Sql.isPhrase (words : List String) (start : Edge) (text : String) (finish : Edge) : Bool :=
  isFitting start text.toList finish && (tokens '"' text.toList).all (Token.isBare words)

/-! ### Lawful dialects -/

/-- A dialect writes texts that can be read back, using some words of its own. -/
structure Dialect.IsLawful (dialect : Dialect) (words : List String) : Prop where
  quoteCharacter : isPlain dialect.quoteCharacter = false
  placeholder (position : Nat) : dialect.placeholder position ∈
    ["?", "?" ++ naturalText position, "$" ++ naturalText position]
  bindCast (kind : Kind) : isPhrase words .bound (dialect.bindCast kind) .bound = true
  /-- A cast is empty or a word after two colons. -/
  bindCast_tokens (kind : Kind) : tokens '"' (dialect.bindCast kind).toList = [] ∨
    ∃ word, tokens '"' (dialect.bindCast kind).toList = [.symbol ':', .symbol ':', .word word]
  /-- What selects a column stands around the quoted name. -/
  selectExpression (field : Field) : ∃ opening closing,
    isPhrase words .free opening .free = true ∧ isPhrase words .bound closing .bound = true ∧
      ∀ column, dialect.selectExpression field column = opening ++ column ++ closing
  unboundedLimit : isPhrase words .free dialect.unboundedLimit .bound = true
  emptyRow : isPhrase words .bound dialect.emptyRow .bound = true

namespace Dialect

variable {dialect : Dialect} {words : List String}

/-- The markers of a lawful dialect are read as markers. -/
theorem IsLawful.isMarker (lawful : dialect.IsLawful words) (position : Nat) :
    IsMarker (dialect.placeholder position).toList := by
  have areDigits := isDigits_toDigits position
  have written := lawful.placeholder position
  simp only [List.mem_cons, List.not_mem_nil, or_false] at written
  rcases written with equal | equal | equal
  · rw [equal]
    exact ⟨'?', [], rfl, .inl rfl, fun _ member => (by cases member)⟩
  · refine ⟨'?', Nat.toDigits 10 position, ?_, .inl rfl, areDigits⟩
    rw [equal, String.toList_append, toList_naturalText, String.toList_ofList]
    rfl
  · refine ⟨'$', Nat.toDigits 10 position, ?_, .inr ⟨rfl, Nat.toDigits_ne_nil⟩, areDigits⟩
    rw [equal, String.toList_append, toList_naturalText, String.toList_ofList]
    rfl

/-! ### The dialects of the library -/

/-- The words that the dialects of the library add to those of the statements. -/
def productWords : List String :=
  [":", "ALL", "AS", "CAST", "CHAR", "DATE", "DEFAULT", "DOUBLE", "MAX", "PRECISION", "TEXT",
    "TIME", "TIMESTAMP", "TIMESTAMPTZ", "UUID", "VALUES"]

/-- A column that is selected as it stands. -/
theorem selectExpression_plain (column : String) : column = "" ++ column ++ "" := by
  rw [String.empty_append, String.append_empty]

theorem isLawful_plain : plain.IsLawful productWords where
  quoteCharacter := by decide
  placeholder _ := List.mem_cons_self
  bindCast _ := rfl
  bindCast_tokens _ := .inl rfl
  selectExpression _ := ⟨"", "", by decide, by decide, selectExpression_plain⟩
  unboundedLimit := by decide
  emptyRow := by decide

theorem isLawful_sqlite : sqlite.IsLawful productWords where
  quoteCharacter := by decide
  placeholder _ := List.mem_cons_self
  bindCast _ := rfl
  bindCast_tokens _ := .inl rfl
  selectExpression _ := ⟨"", "", by decide, by decide, selectExpression_plain⟩
  unboundedLimit := by decide
  emptyRow := by decide

theorem isLawful_mySql : mySql.IsLawful productWords where
  quoteCharacter := by decide
  placeholder _ := List.mem_cons_self
  bindCast _ := rfl
  bindCast_tokens _ := .inl rfl
  selectExpression field := by
    have asStands := selectExpression_plain
    show ∃ opening closing, _ ∧ _ ∧ ∀ column, MySql.selectExpression field column = _
    unfold MySql.selectExpression
    split
    iterate 4 exact ⟨"CAST(", " AS CHAR)", by decide, by decide, fun column => rfl⟩
    iterate 2
      split
      · exact ⟨"CAST(", " AS DOUBLE)", by decide, by decide, fun column => rfl⟩
      · exact ⟨"", "", by decide, by decide, asStands⟩
    exact ⟨"", "", by decide, by decide, asStands⟩
  unboundedLimit := by decide
  emptyRow := by decide

theorem isLawful_postgres : postgres.IsLawful productWords where
  quoteCharacter := by decide
  placeholder _ := List.mem_cons_of_mem _ (List.mem_cons_of_mem _ List.mem_cons_self)
  bindCast kind := by cases kind <;> rfl
  bindCast_tokens kind := by
    cases kind with
    | uuid => exact .inr ⟨"UUID".toList, by decide⟩
    | date => exact .inr ⟨"DATE".toList, by decide⟩
    | time => exact .inr ⟨"TIME".toList, by decide⟩
    | dateTime => exact .inr ⟨"TIMESTAMP".toList, by decide⟩
    | timestamp => exact .inr ⟨"TIMESTAMPTZ".toList, by decide⟩
    | _ => exact .inl rfl
  selectExpression field := by
    have asStands := selectExpression_plain
    show ∃ opening closing, _ ∧ _ ∧ ∀ column, Postgres.selectExpression field column = _
    unfold Postgres.selectExpression
    repeat' split
    · exact ⟨"", "::TEXT", by decide, by decide, fun column => by rw [String.empty_append]⟩
    · exact ⟨"", "::DOUBLE PRECISION", by decide, by decide, fun column => by
        rw [String.empty_append]⟩
    · exact ⟨"", "::TEXT", by decide, by decide, fun column => by rw [String.empty_append]⟩
    · exact ⟨"", "", by decide, by decide, asStands⟩
  unboundedLimit := by decide
  emptyRow := by decide

end Dialect

/-- Every dialect of the library's registry is lawful. -/
theorem DialectRegistry.isLawful_standard :
    ∀ entry ∈ standard.entries, entry.2.IsLawful Dialect.productWords := by
  intro entry member
  simp only [standard, List.mem_cons, List.not_mem_nil, or_false] at member
  rcases member with rfl | rfl | rfl | rfl | rfl
  · exact Dialect.isLawful_postgres
  · exact Dialect.isLawful_postgres
  · exact Dialect.isLawful_mySql
  · exact Dialect.isLawful_mySql
  · exact Dialect.isLawful_sqlite

end RecordMapper
