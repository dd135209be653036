/-
This file reads the tags by which the fields of a record say how they are mapped. A tag is a
list of clauses between semicolons, each a key or a key with a value behind a colon. Keys are
read without regard to case and to the blanks inside them. A clause either raises a flag, sets
a text, adds to one of the two lists of indexes, or is unknown; clauses apply one after the
other, so a later text replaces an earlier one. Numbers stay texts here and are read where the
field they belong to is known.
-/

import RecordMapper.Error

namespace RecordMapper

open RecordMapper.Text

/-! ### Tags -/

/-- What a tag says about its field. -/
structure FieldTag where
  isIgnored : Bool := false
  isPrimaryKey : Bool := false
  isAutoIncrement : Bool := false
  column : Option String := none
  sqlType : Option String := none
  size : Option String := none
  precision : Option String := none
  scale : Option String := none
  isNotNull : Bool := false
  isNull : Bool := false
  isUnique : Bool := false
  defaultValue : Option String := none
  /-- The plain indexes that the field joins, in order; one without a name is named for it. -/
  indexes : List (Option String) := []
  /-- The unique indexes that the field joins, in order. -/
  uniqueIndexes : List (Option String) := []
  /-- The keys that mean nothing, as they are spelled, in order. -/
  unknown : List String := []
  deriving DecidableEq

/-! ### Clauses -/

/-- One clause of a tag: its key as spelled, and its value if it has one. -/
structure Clause where
  key : List Char
  value : Option (List Char)
  deriving DecidableEq

namespace Clause

/-- The clause that a piece of a tag stands for; a blank piece stands for none. An empty value
is none. -/
def ofPiece? (piece : List Char) : Option Clause :=
  let piece := trim piece
  if piece.isEmpty then none
  else
    match cut ':' piece with
    | none => some ⟨piece, none⟩
    | some (key, value) =>
      let value := trim value
      some ⟨trim key, if value.isEmpty then none else some value⟩

/-- The key as it is compared: single spaces and lower case. -/
def comparedKey (clause : Clause) : String :=
  String.ofList (asciiLower (singleSpaced clause.key))

/-- The value as a string. -/
def text (clause : Clause) : Option String :=
  clause.value.map String.ofList

/-- What a tag says once the clause has been added to it. -/
def apply (tag : FieldTag) (clause : Clause) : FieldTag :=
  match clause.comparedKey with
  | "-" => { tag with isIgnored := true }
  | "primarykey" => { tag with isPrimaryKey := true }
  | "autoincrement" => { tag with isAutoIncrement := true }
  | "column" => { tag with column := clause.text }
  | "type" => { tag with sqlType := clause.text }
  | "size" => { tag with size := clause.text }
  | "precision" => { tag with precision := clause.text }
  | "scale" => { tag with scale := clause.text }
  | "not null" => { tag with isNotNull := true }
  | "null" => { tag with isNull := true }
  | "unique" => { tag with isUnique := true }
  | "default" => { tag with defaultValue := clause.text }
  | "index" => { tag with indexes := tag.indexes ++ [clause.text] }
  | "uniqueindex" => { tag with uniqueIndexes := tag.uniqueIndexes ++ [clause.text] }
  | _ => { tag with unknown := tag.unknown ++ [String.ofList clause.key] }

end Clause

namespace FieldTag

/-- The clauses of a tag. -/
def clauses (text : List Char) : List Clause :=
  (pieces (· == ';') text).filterMap Clause.ofPiece?

/-- Whether a text is the mark that leaves a field out altogether. -/
def isLoneMark (text : String) : Bool :=
  trim text.toList == ['-']

/-- What the text of a tag says. -/
def parse (text : String) : FieldTag :=
  if isLoneMark text then { isIgnored := true }
  else (clauses text.toList).foldl Clause.apply {}

/-- The number that a text of a tag stands for, if the tag has that text. -/
def number (key : String) : Option String → Except TagFault (Option Nat)
  | none => .ok none
  | some value =>
    match unsigned? value.toList with
    | some number => if number < Nat.pow 2 32 then .ok (some number) else .error (.notANumber key value)
    | none => .error (.notANumber key value)

end FieldTag

end RecordMapper
