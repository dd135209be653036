/-
This file says where a WHERE clause compares with absence. A filter that compares is refused if its
value is absent, but patterns and the values of a list are not looked at, and absence passes through
every kind. So the clause binds an absent argument exactly where a pattern or a listed value is
absent. Nothing is known of a comparison with absence, and a list of values to be left out that has
absence in it therefore leaves out every row.
-/

import RecordMapper.Proofs.Filter.Meaning
import RecordMapper.Proofs.Schema.Accepted
import RecordMapper.Proofs.Statement.Listed

namespace RecordMapper

open Sql

/-- The operands of a filter that may be absent without the filter being refused for it. -/
def Filter.uncheckedOperands : Filter → List Value
  | .like _ pattern => [pattern]
  | .among _ _ values => values
  | .compare _ _ _ | .absent _ _ => []

/-- An argument is what an operand comes to under the kind that the argument is meant for. -/
def Argument.StandsFor (operand : Value) (argument : Argument) : Prop :=
  ComesTo argument.2 operand argument.1

variable {dialect : Dialect} {model : Model}

/-! ### What is bound -/

/-- An argument is absent if the operand is that it stands for. -/
theorem Argument.StandsFor.eq_null_iff {operand : Value} {argument : Argument}
    (stands : Argument.StandsFor operand argument) : argument.1 = .null ↔ operand = .null := by
  rcases Value.coerce_eq_ok stands with ⟨absent, kept⟩ | ⟨present, kept, -⟩
  · exact iff_of_true kept absent
  · exact iff_of_false kept present

/-- The condition of a filter binds what its operands come to, in their order. -/
theorem Carries.standsFor {field : Field} {filter : Filter} {condition : Condition}
    (carries : Carries field filter condition) :
    List.Forall₂ Argument.StandsFor filter.operands (supplied (condition.fragments dialect)) := by
  cases carries with
  | compare present comes => exact .cons comes .nil
  | like comes => exact .cons comes .nil
  | constant => exact .nil
  | @among negated key values operands _ come =>
    have listed : supplied ((Condition.among negated field.column operands field.kind).fragments
        dialect) = operands.map fun operand => (operand, field.kind) := by
      rw [Condition.fragments, List.cons_append, supplied, supplied_append, supplied_separated,
        List.flatMap_map]
      simp only [supplied, List.append_nil]
      exact (List.map_eq_flatMap).symm
    rw [listed]
    exact List.forall₂_map_right_iff.mpr come
  | absent => exact .nil

/-- Among arguments none is absent if none of the operands is that they stand for. -/
theorem forall_present_iff_of_standFor {operands : List Value} {bound : List Argument}
    (stand : List.Forall₂ Argument.StandsFor operands bound) :
    (∀ argument ∈ bound, argument.1 ≠ .null) ↔ ∀ operand ∈ operands, operand ≠ .null := by
  induction stand with
  | nil => exact iff_of_true (List.forall_mem_nil _) (List.forall_mem_nil _)
  | cons stands _ inductionHypothesis =>
    rw [List.forall_mem_cons, List.forall_mem_cons, inductionHypothesis, Ne, stands.eq_null_iff]

/-- The condition of a filter binds no absence exactly if none of the unchecked operands is absent.
A comparison has none, as it is refused for an absent value. -/
theorem Carries.forall_present_iff {field : Field} {filter : Filter} {condition : Condition}
    (carries : Carries field filter condition) :
    (∀ argument ∈ supplied (condition.fragments dialect), argument.1 ≠ .null) ↔
      ∀ operand ∈ filter.uncheckedOperands, operand ≠ .null := by
  rw [forall_present_iff_of_standFor carries.standsFor]
  cases carries with
  | compare present comes => simpa [Filter.operands, Filter.uncheckedOperands] using present
  | _ => rfl

/-- A clause binds what its conditions bind. -/
theorem supplied_whereFragments (found : List Condition) :
    supplied (whereFragments dialect found) =
      found.flatMap fun condition => supplied (condition.fragments dialect) := by
  rw [whereFragments]
  cases found with
  | nil => rfl
  | cons condition rest =>
    rw [if_neg (by simp), supplied, supplied_separated, List.flatMap_map]

/-- Added to a statement, a clause binds what all operands of its filters come to, in their order.
It compares with no absence exactly if no pattern and no listed value is absent. -/
theorem whereClause_binds {filters : List Filter} {found : List Condition}
    (carried : conditions model filters = .ok found) (earlier : Statement) :
    ∃ bound, ((whereFragments dialect found).foldl (Statement.add dialect) earlier).arguments =
        earlier.arguments ++ bound ∧
      List.Forall₂ Argument.StandsFor (filters.flatMap Filter.operands) bound ∧
      ((∀ argument ∈ bound, argument.1 ≠ .null) ↔
        ∀ filter ∈ filters, ∀ operand ∈ filter.uncheckedOperands, operand ≠ .null) := by
  refine ⟨supplied (whereFragments dialect found), by rw [foldl_add], ?_⟩
  rw [supplied_whereFragments]
  have each := Outcome.mapM_eq_ok.mp carried
  clear carried
  induction each with
  | nil => exact ⟨.nil, iff_of_true (List.forall_mem_nil _) (List.forall_mem_nil _)⟩
  | cons comes _ inductionHypothesis =>
    obtain ⟨field, -, carries⟩ := Filter.condition_eq_ok.mp comes
    obtain ⟨stand, present⟩ := inductionHypothesis
    rw [List.flatMap_cons, List.flatMap_cons, List.forall_mem_append, List.forall_mem_cons,
      carries.forall_present_iff, present]
    exact ⟨List.rel_append carries.standsFor stand, Iff.rfl⟩

/-- The clause of filters on held seats, of which none has an absent operand, compares with none. -/
theorem whereClause_binds_heldSeats :
    ∃ model found, Query.freeSeats.model = .ok model ∧ conditions model heldSeats = .ok found ∧
      ∃ bound, ((whereFragments .postgres found).foldl (Statement.add .postgres)
          ⟨"SELECT $1", [(.int 0, .int)]⟩).arguments = (.int 0, .int) :: bound ∧
        List.Forall₂ Argument.StandsFor [.int 3, .text "4", .text "A%"] bound ∧
        ∀ argument ∈ bound, argument.1 ≠ .null := by
  have resolves : (Query.freeSeats.model.toOption.bind fun model =>
      (conditions model heldSeats).toOption).isSome = true := by decide +kernel
  obtain ⟨found, comes⟩ := Option.isSome_iff_exists.mp resolves
  obtain ⟨model, resolved, carried⟩ := Option.bind_eq_some_iff.mp comes
  rw [Outcome.toOption_eq_some] at resolved carried
  obtain ⟨bound, added, stand, present⟩ :=
    whereClause_binds carried ⟨"SELECT $1", [(.int 0, .int)]⟩
  exact ⟨model, found, resolved, carried, bound, added, stand, present.mpr (by decide)⟩

/-! ### What absence does -/

/-- A value is not known to differ from all of several if one of them is absent. -/
theorem memberTruth_ne_false {product : Product} {value : Value} {values : List Value}
    (absent : .null ∈ values) : memberTruth product value values ≠ some false := by
  intro outside
  have apart := memberTruth_eq_false.mp outside .null absent
  exact (between_eq_some.mp apart).2.1 rfl

/-- If absence is among values that a filter leaves out, no row is kept at all. -/
theorem conjunction_ne_true_of_absent {filters : List Filter} {found : List Condition}
    (carried : conditions model filters = .ok found) {key : String} {values : List Value}
    (excludes : .among true key values ∈ filters) (absent : .null ∈ values) (product : Product)
    (cells : Cells) : conjunction product cells (found.map Condition.test) ≠ some true := by
  intro kept
  obtain ⟨condition, member, comes⟩ :=
    Outcome.exists_of_forall₂ (Outcome.mapM_eq_ok.mp carried).flip excludes
  obtain ⟨field, -, carries⟩ := Filter.condition_eq_ok.mp comes
  have passes := conjunction_eq_true.mp kept _ (List.mem_map_of_mem member)
  cases carries with
  | constant => cases absent
  | @among _ _ _ operands _ come =>
    obtain ⟨operand, listed, gone⟩ := Outcome.exists_of_forall₂ come.flip absent
    cases gone
    exact memberTruth_ne_false listed (Truth.not_eq_true.mp passes)

/-! ### Seats of guests -/

/-- A filter that leaves out the seats of a guest, and absence by mistake. -/
def notAda : List Filter :=
  [.among true "guest" [.text "Ada", .null]]

/-- Absence in a list of values to be left out is bound like any other value, and no row is kept. -/
theorem notAda_binds_absence :
    (∃ model found, Query.freeSeats.model = .ok model ∧ conditions model notAda = .ok found ∧
      (whereFragments .postgres found).foldl (Statement.add .postgres) {} =
        ⟨" WHERE \"guest\" NOT IN ($1, $2)", [(.text "Ada", .text), (.null, .text)]⟩ ∧
      ∀ (product : Product) (cells : Cells),
        conjunction product cells (found.map Condition.test) ≠ some true) ∧
    ¬ ∀ (dialect : Dialect) (model : Model) (filters : List Filter) (found : List Condition)
        (earlier : Statement), model.IsAccepted → conditions model filters = .ok found →
      ∃ bound, ((whereFragments dialect found).foldl (Statement.add dialect) earlier).arguments =
          earlier.arguments ++ bound ∧ ∀ argument ∈ bound, argument.1 ≠ .null := by
  have written : (Query.freeSeats.model.toOption.bind fun model =>
      (conditions model notAda).toOption.map fun found =>
        (whereFragments .postgres found).foldl (Statement.add .postgres) {}) =
      some ⟨" WHERE \"guest\" NOT IN ($1, $2)", [(.text "Ada", .text), (.null, .text)]⟩ := by
    decide +kernel
  obtain ⟨model, resolved, comes⟩ := Option.bind_eq_some_iff.mp written
  obtain ⟨found, carried, made⟩ := Option.map_eq_some_iff.mp comes
  rw [Outcome.toOption_eq_some] at resolved carried
  refine ⟨⟨model, found, resolved, carried, made, ?_⟩, fun compares => ?_⟩
  · exact conjunction_ne_true_of_absent carried List.mem_cons_self (by decide)
  · obtain ⟨bound, added, present⟩ :=
      compares .postgres model notAda found {} ⟨.snakeCasePlural, _, resolved⟩ carried
    rw [made] at added
    obtain rfl : bound = [(.text "Ada", .text), (.null, .text)] := added.symm
    exact present (.null, .text) (by decide) rfl

end RecordMapper
