/-
This file says what a tag says: each of its parts can be read off the clauses under one key, without
regard to all others. Clauses apply one after the other, but none takes a flag back, and each one
adds to a list what it names; a text is that of the last clause with its key. A tag that is the mark
alone is read without looking for clauses, and comes to the same as its one clause.
-/

import RecordMapper.FieldTag
import RecordMapper.Proofs.Text.Pieces
import RecordMapper.Proofs.Text.Trimming

namespace RecordMapper

open RecordMapper.Text

namespace FieldTag

/-! ### The parts of a tag -/

/-- The texts that clauses state under a key, in order. -/
def under (key : String) (clauses : List Clause) : List (Option String) :=
  (clauses.filter fun clause => clause.comparedKey = key).map Clause.text

/-- The keys that mean something. -/
def knownKeys : List String :=
  ["-", "primarykey", "autoincrement", "column", "type", "size", "precision", "scale", "not null",
    "null", "unique", "default", "index", "uniqueindex"]

/-- What clauses say: each part of the tag as the clauses under one key state it. -/
def ofClauses (clauses : List Clause) : FieldTag where
  isIgnored := !(under "-" clauses).isEmpty
  isPrimaryKey := !(under "primarykey" clauses).isEmpty
  isAutoIncrement := !(under "autoincrement" clauses).isEmpty
  column := (under "column" clauses).getLast?.join
  sqlType := (under "type" clauses).getLast?.join
  size := (under "size" clauses).getLast?.join
  precision := (under "precision" clauses).getLast?.join
  scale := (under "scale" clauses).getLast?.join
  isNotNull := !(under "not null" clauses).isEmpty
  isNull := !(under "null" clauses).isEmpty
  isUnique := !(under "unique" clauses).isEmpty
  defaultValue := (under "default" clauses).getLast?.join
  indexes := under "index" clauses
  uniqueIndexes := under "uniqueindex" clauses
  unknown := (clauses.filter fun clause => clause.comparedKey ∉ knownKeys).map fun clause =>
    String.ofList clause.key

/-- A key is stated if one of the clauses has it. -/
theorem not_isEmpty_under (key : String) (clauses : List Clause) :
    (!(under key clauses).isEmpty) = clauses.any fun clause => clause.comparedKey == key := by
  induction clauses with
  | nil => rfl
  | cons clause rest inductionHypothesis =>
    rw [List.any_cons, ← inductionHypothesis]
    by_cases same : clause.comparedKey = key <;> simp [under, same]

theorem under_append (key : String) (earlier later : List Clause) :
    under key (earlier ++ later) = under key earlier ++ under key later := by
  simp [under]

theorem under_flatMap {Item : Type} (key : String) (clauses : Item → List Clause)
    (items : List Item) :
    under key (items.flatMap clauses) = items.flatMap fun item => under key (clauses item) := by
  rw [under, List.filter_flatMap, List.map_flatMap]
  rfl

/-- One more clause changes the part of its key only. -/
theorem apply_ofClauses (clauses : List Clause) (clause : Clause) :
    clause.apply (ofClauses clauses) = ofClauses (clauses ++ [clause]) := by
  unfold Clause.apply
  split <;> simp_all [ofClauses, under, knownKeys]

/-- Clauses that apply one after the other say what each part says on its own. -/
theorem foldl_apply_ofClauses (earlier clauses : List Clause) :
    clauses.foldl Clause.apply (ofClauses earlier) = ofClauses (earlier ++ clauses) := by
  induction clauses generalizing earlier with
  | nil => rw [List.foldl_nil, List.append_nil]
  | cons clause rest inductionHypothesis =>
    rw [List.foldl_cons, apply_ofClauses, inductionHypothesis, List.append_assoc,
      List.singleton_append]

theorem foldl_apply (clauses : List Clause) : clauses.foldl Clause.apply {} = ofClauses clauses :=
  foldl_apply_ofClauses [] clauses

/-! ### Reading a tag -/

/-- The clauses of a text without semicolons are what its one piece stands for. -/
theorem clauses_of_free {piece : List Char} (free : ';' ∉ piece) :
    clauses piece = (Clause.ofPiece? piece).toList := by
  have whole : pieces (· == ';') piece = [piece] := by
    refine pieces_of_free fun character member => ?_
    exact beq_eq_false_iff_ne.mpr fun same => free (same ▸ member)
  rw [clauses, whole]
  cases found : Clause.ofPiece? piece <;> simp [found]

/-- The mark alone is a tag of one clause. -/
theorem clauses_of_isLoneMark {text : String} (alone : isLoneMark text = true) :
    clauses text.toList = [⟨['-'], none⟩] := by
  have mark : trim text.toList = ['-'] := beq_iff_eq.mp alone
  obtain ⟨before, after, areBlanks, areBlanksToo, whole⟩ := exists_blanks_around text.toList
  rw [mark] at whole
  have free : ';' ∉ text.toList := by
    rw [whole]
    simp [areBlanks.not_mem (show isBlank ';' = false by decide),
      areBlanksToo.not_mem (show isBlank ';' = false by decide)]
  rw [clauses_of_free free, Clause.ofPiece?, mark]
  rfl

/-- Reading a tag comes to applying its clauses, also where it is the mark alone. -/
theorem parse_eq_foldl (text : String) :
    parse text = (clauses text.toList).foldl Clause.apply {} := by
  cases alone : isLoneMark text with
  | false => rw [parse, alone, if_neg Bool.false_ne_true]
  | true =>
    rw [parse, if_pos alone, clauses_of_isLoneMark alone]
    rfl

theorem parse_eq_ofClauses (text : String) : parse text = ofClauses (clauses text.toList) := by
  rw [parse_eq_foldl, foldl_apply]

end FieldTag

end RecordMapper
