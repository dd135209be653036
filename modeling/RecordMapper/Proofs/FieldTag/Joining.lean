/-
This file proves that a tag in several parts says what its parts say one after the other. The parts
are joined by the semicolons that stand between clauses as well, so the clauses of the whole are
those of the parts in order; no clause runs across a seam, whatever stands there. Flags and lists
add up over the parts. Of the texts the last clause decides, and without a value it takes back what
clauses before it have set.
-/

import RecordMapper.Proofs.FieldTag

namespace RecordMapper

open RecordMapper.Text

namespace FieldTag

/-! ### Clauses of joined texts -/

theorem clauses_append_cons (first rest : List Char) :
    clauses (first ++ ';' :: rest) = clauses first ++ clauses rest := by
  rw [clauses, pieces_append_cons (by decide), List.filterMap_append, ← clauses, ← clauses]

/-- Texts that are joined by semicolons have their clauses one after the other. -/
theorem clauses_intercalate (texts : List (List Char)) :
    clauses ([';'].intercalate texts) = texts.flatMap clauses := by
  induction texts with
  | nil => rfl
  | cons text rest inductionHypothesis =>
    cases rest with
    | nil => rw [List.intercalate_singleton, List.flatMap_singleton]
    | cons next others =>
      rw [List.intercalate_cons_cons, List.append_assoc, List.singleton_append,
        clauses_append_cons, inductionHypothesis]
      rfl

theorem parse_intercalate (texts : List String) :
    parse (";".intercalate texts) = ofClauses (texts.flatMap fun text => clauses text.toList) := by
  rw [parse_eq_ofClauses, String.toList_intercalate]
  show ofClauses (clauses ([';'].intercalate _)) = _
  rw [clauses_intercalate, List.flatMap_map]

/-! ### What joined texts say -/

/-- The value of the last clause with a key; there is none if that clause has no value, and none if
there is no such clause. -/
def lastText (key : String) (clauses : List Clause) : Option String :=
  (under key clauses).getLast?.join

/-- What it means that a tag says what texts say one after the other. -/
structure SaysInTurn (texts : List String) (tag : FieldTag) : Prop where
  /-- The clauses of each text apply to what the texts before it have said. -/
  inTurn : tag = texts.foldl (fun said text => (clauses text.toList).foldl Clause.apply said) {}
  /-- A flag that one of the texts raises stays raised. -/
  flags : ∀ flag ∈ [isIgnored, isPrimaryKey, isAutoIncrement, isNotNull, isNull, isUnique],
    flag tag = texts.any fun text => flag (parse text)
  /-- The indexes of the texts follow one another. -/
  lists : ∀ list ∈ [indexes, uniqueIndexes], list tag = texts.flatMap fun text => list (parse text)
  /-- So do the keys that mean nothing. -/
  unknown : tag.unknown = texts.flatMap fun text => (parse text).unknown
  /-- A text is what the last clause with its key makes it, be that nothing. -/
  values : ∀ value ∈ [("column", column), ("type", sqlType), ("size", size),
      ("precision", precision), ("scale", scale), ("default", defaultValue)],
    value.2 tag = lastText value.1 (texts.flatMap fun text => clauses text.toList)

theorem foldl_texts (texts : List String) (earlier : List Clause) :
    texts.foldl (fun said text => (clauses text.toList).foldl Clause.apply said)
        (ofClauses earlier) =
      ofClauses (earlier ++ texts.flatMap fun text => clauses text.toList) := by
  induction texts generalizing earlier with
  | nil => rw [List.foldl_nil, List.flatMap_nil, List.append_nil]
  | cons text rest inductionHypothesis =>
    rw [List.foldl_cons, foldl_apply_ofClauses, inductionHypothesis, List.flatMap_cons,
      List.append_assoc]

/-- A key is stated by joined texts if one of them states it. -/
theorem isEmpty_under_flatMap (key : String) (texts : List String) :
    (!(under key (texts.flatMap fun text => clauses text.toList)).isEmpty) =
      texts.any fun text => !(under key (clauses text.toList)).isEmpty := by
  simp only [not_isEmpty_under, List.any_flatMap]

/-- Texts that are joined by semicolons say what they say one after the other; and a text alone says
what its clauses do, whether or not it is the mark by which a field is left out. -/
theorem parse_joined :
    (∀ texts, SaysInTurn texts (parse (";".intercalate texts))) ∧
      ∀ text, parse text = (clauses text.toList).foldl Clause.apply {} := by
  refine ⟨fun texts => ?_, parse_eq_foldl⟩
  rw [parse_intercalate]
  refine
    { inTurn := (foldl_texts texts []).symm
      flags := ?_
      lists := ?_
      unknown := ?_
      values := ?_ }
  · simp only [List.forall_mem_cons, List.not_mem_nil, false_implies, implies_true, and_true,
      parse_eq_ofClauses]
    exact ⟨isEmpty_under_flatMap _ _, isEmpty_under_flatMap _ _, isEmpty_under_flatMap _ _,
      isEmpty_under_flatMap _ _, isEmpty_under_flatMap _ _, isEmpty_under_flatMap _ _⟩
  · simp only [List.forall_mem_cons, List.not_mem_nil, false_implies, implies_true, and_true,
      parse_eq_ofClauses]
    exact ⟨under_flatMap _ _ _, under_flatMap _ _ _⟩
  · simp only [parse_eq_ofClauses, ofClauses, List.filter_flatMap, List.map_flatMap]
  · simp only [List.forall_mem_cons, List.not_mem_nil, false_implies, implies_true, and_true]
    exact ⟨rfl, rfl, rfl, rfl, rfl, rfl⟩

end FieldTag

end RecordMapper
