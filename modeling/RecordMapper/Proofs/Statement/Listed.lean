/-
This file says how the items of a list come out in a statement. Between neighbours stands a
separator, so the arguments of the list are those of its items one after the other. Where every
item has a single argument, the markers are numbered along the list, from the first position that is
free.
-/

import RecordMapper.Proofs.Statement.Fragments

namespace RecordMapper

/-! ### Arguments -/

theorem supplied_append (opening closing : List Fragment) :
    supplied (opening ++ closing) = supplied opening ++ supplied closing := by
  induction opening with
  | nil => rfl
  | cons fragment rest inductionHypothesis =>
    cases fragment with
    | text sql => exact inductionHypothesis
    | argument argument => exact congrArg (argument :: ·) inductionHypothesis

/-- Items between which a separator stands have their arguments one after the other. -/
theorem supplied_separated (separator : String) (items : List (List Fragment)) :
    supplied (separated separator items) = items.flatMap supplied := by
  induction items with
  | nil => rfl
  | cons item rest inductionHypothesis =>
    cases rest with
    | nil => rw [separated, List.flatMap_singleton]
    | cons next others =>
      rw [List.flatMap_cons, ← inductionHypothesis]
      exact supplied_append item (.text separator :: separated separator (next :: others))

/-! ### Markers in a row -/

/-- The text for an argument of a kind at a position: its marker and the cast after it. -/
def Dialect.marker (dialect : Dialect) (position : Nat) (kind : Kind) : String :=
  dialect.placeholder position ++ dialect.bindCast kind

variable {dialect : Dialect}

theorem written_argument (bound : Nat) (argument : Argument) :
    written dialect bound [.argument argument] = dialect.marker (bound + 1) argument.2 := by
  rw [written, written, String.append_empty, Dialect.marker]

/-- A text with an argument after it is written as the text and the marker. -/
theorem written_text_argument (bound : Nat) (sql : String) (argument : Argument) :
    written dialect bound [.text sql, .argument argument] =
      sql ++ dialect.marker (bound + 1) argument.2 := by
  rw [written, written_argument]

/-- Items with one argument each are written in turn, each at the next position, and the separator
between neighbours. -/
theorem written_separated {Item : Type} {fragments : Item → List Fragment} (separator : String)
    (render : Item → Nat → String) {items : List Item}
    (single : ∀ item ∈ items, (supplied (fragments item)).length = 1)
    (renders : ∀ item ∈ items, ∀ bound,
      written dialect bound (fragments item) = render item (bound + 1)) (bound : Nat) :
    written dialect bound (separated separator (items.map fragments)) =
      separator.intercalate
        ((items.zipIdx (bound + 1)).map fun placed => render placed.1 placed.2) := by
  induction items generalizing bound with
  | nil => rfl
  | cons item rest inductionHypothesis =>
    have first := renders item List.mem_cons_self bound
    rw [List.forall_mem_cons] at single renders
    have later := inductionHypothesis single.2 renders.2 (bound + 1)
    rw [List.zipIdx_cons, List.map_cons, List.map_cons]
    cases rest with
    | nil =>
      rw [List.map_nil, separated, List.zipIdx_nil, List.map_nil, String.intercalate_singleton,
        first]
    | cons next others =>
      have nonempty : ((next :: others).zipIdx (bound + 1 + 1)).map
          (fun placed => render placed.1 placed.2) ≠ [] := by simp
      rw [String.intercalate_cons_of_ne_nil nonempty, ← later]
      show written dialect bound (fragments item ++ .text separator ::
        separated separator ((next :: others).map fragments)) = _
      rw [written_append, single.1, first, written, String.append_assoc]

/-! ### Columns and arguments -/

/-- The text by which a field's column is set to, or compared with, the argument at a position. -/
def equation (dialect : Dialect) (field : Field) (position : Nat) : String :=
  dialect.quote field.column ++ " = " ++ dialect.marker position field.kind

/-- The equations of fields, numbered along them from the first position on. -/
def equations (dialect : Dialect) (fields : List Field) : List String :=
  (fields.zipIdx 1).map fun placed => equation dialect placed.1 placed.2

/-- The fragments of an equation. -/
def equationFragments (dialect : Dialect) (field : Field) (value : Value) : List Fragment :=
  [.text (dialect.quote field.column ++ " = "), .argument (value, field.kind)]

/-- Items that have a field and a value each are written as the equations of their fields. -/
theorem written_equations (dialect : Dialect) {Item : Type} (separator : String)
    (fieldOf : Item → Field) (valueOf : Item → Value) (items : List Item) :
    written dialect 0 (separated separator
        (items.map fun item => equationFragments dialect (fieldOf item) (valueOf item))) =
      separator.intercalate (equations dialect (items.map fieldOf)) := by
  rw [written_separated separator (fun item => equation dialect (fieldOf item)) (fun _ _ => rfl)
    (fun _ _ bound => written_text_argument bound _ _), equations, List.zipIdx_map, List.map_map]
  rfl

/-- Items that have a field and a value each have their values as arguments. -/
theorem supplied_equations (dialect : Dialect) {Item : Type} (separator : String)
    (fieldOf : Item → Field) (valueOf : Item → Value) (items : List Item) :
    supplied (separated separator
        (items.map fun item => equationFragments dialect (fieldOf item) (valueOf item))) =
      items.map fun item => (valueOf item, (fieldOf item).kind) := by
  rw [supplied_separated, List.flatMap_map]
  exact (List.map_eq_flatMap).symm

end RecordMapper
