/-
This file reads a WHERE clause as a database does and says which rows it keeps. The reader knows
nothing of how the clause came about: it takes the tokens of a text, puts arguments in the place of
markers, passes over casts, and splits what is left at AND into tests. A test on a row is true,
false or unknown. Nothing is known of a comparison with an absent value, and a row is kept only if
all tests together are true. How values that are present compare is up to the product.
-/

import RecordMapper.Filter.Basic
import RecordMapper.Proofs.Sql.Lexer
import RecordMapper.Statement.Basic

namespace RecordMapper.Sql

/-! ### Truth -/

/-- A truth value; `none` is the unknown one. -/
abbrev Truth := Option Bool

namespace Truth

/-- Both are true. One that is false decides, whatever the other. -/
def and : Truth → Truth → Truth
  | some false, _ | _, some false => some false
  | some true, some true => some true
  | _, _ => none

/-- One is true. One that is true decides, whatever the other. -/
def or : Truth → Truth → Truth
  | some true, _ | _, some true => some true
  | some false, some false => some false
  | _, _ => none

/-- The opposite of an unknown truth value is unknown. -/
def not (truth : Truth) : Truth :=
  truth.map fun holds => !holds

theorem and_eq_true {first second : Truth} :
    first.and second = some true ↔ first = some true ∧ second = some true := by
  rcases first with _ | _ | _ <;> rcases second with _ | _ | _ <;> decide

theorem or_eq_true {first second : Truth} :
    first.or second = some true ↔ first = some true ∨ second = some true := by
  rcases first with _ | _ | _ <;> rcases second with _ | _ | _ <;> decide

theorem or_eq_false {first second : Truth} :
    first.or second = some false ↔ first = some false ∧ second = some false := by
  rcases first with _ | _ | _ <;> rcases second with _ | _ | _ <;> decide

theorem not_eq_true {truth : Truth} : truth.not = some true ↔ truth = some false := by
  rcases truth with _ | _ | _ <;> decide

end Truth

/-! ### Tests -/

/-- How a product compares values that are present. -/
structure Product where
  compares : Comparison → Value → Value → Bool
  resembles : Value → Value → Bool

/-- The values of a row by their columns. -/
abbrev Cells := String → Value

/-- A test that a clause puts to a row. -/
inductive Test
  | compare (comparison : Comparison) (column : String) (value : Value)
  | like (column : String) (pattern : Value)
  | among (negated : Bool) (column : String) (values : List Value)
  | absent (negated : Bool) (column : String)
  | numerals (left right : Nat)

/-- Whether something holds between two values; nothing is known of absent ones. -/
def between (holds : Value → Value → Bool) (left right : Value) : Truth :=
  if left.isNull || right.isNull then none else some (holds left right)

/-- Whether a value equals one of several. -/
def memberTruth (product : Product) (value : Value) (values : List Value) : Truth :=
  values.foldr (fun other found => (between (product.compares .equal) value other).or found)
    (some false)

/-- What a test comes to for a row. -/
def Test.truth (product : Product) (cells : Cells) : Test → Truth
  | .compare comparison column value => between (product.compares comparison) (cells column) value
  | .like column pattern => between product.resembles (cells column) pattern
  | .among false column values => memberTruth product (cells column) values
  | .among true column values => (memberTruth product (cells column) values).not
  | .absent negated column => some ((cells column).isNull != negated)
  | .numerals left right => some (left == right)

/-- What tests come to together for a row; no tests are true. -/
def conjunction (product : Product) (cells : Cells) (tests : List Test) : Truth :=
  tests.foldr (fun test others => (test.truth product cells).and others) (some true)

section

variable {product : Product} {cells : Cells}

theorem between_eq_some {holds : Value → Value → Bool} {left right : Value} {held : Bool} :
    between holds left right = some held ↔
      left ≠ .null ∧ right ≠ .null ∧ holds left right = held := by
  unfold between
  cases left <;> cases right <;> simp [Value.isNull]

theorem memberTruth_eq_true {value : Value} {values : List Value} :
    memberTruth product value values = some true ↔
      ∃ other ∈ values, between (product.compares .equal) value other = some true := by
  induction values with
  | nil => simp [memberTruth]
  | cons other rest inductionHypothesis =>
    rw [memberTruth, List.foldr_cons, Truth.or_eq_true]
    simp only [List.mem_cons, exists_eq_or_imp, ← inductionHypothesis]
    rfl

theorem memberTruth_eq_false {value : Value} {values : List Value} :
    memberTruth product value values = some false ↔
      ∀ other ∈ values, between (product.compares .equal) value other = some false := by
  induction values with
  | nil => simp [memberTruth]
  | cons other rest inductionHypothesis =>
    rw [memberTruth, List.foldr_cons, Truth.or_eq_false, List.forall_mem_cons,
      ← inductionHypothesis]
    rfl

/-- Tests are true together if each of them is. -/
theorem conjunction_eq_true {tests : List Test} :
    conjunction product cells tests = some true ↔
      ∀ test ∈ tests, test.truth product cells = some true := by
  induction tests with
  | nil => simp [conjunction]
  | cons test rest inductionHypothesis =>
    rw [conjunction, List.foldr_cons, Truth.and_eq_true, List.forall_mem_cons,
      ← inductionHypothesis]
    rfl

end

/-! ### Reading -/

/-- What is left of a token once arguments are in their places. -/
inductive Item
  | name (name : String)
  | word (text : String)
  | operator (text : String)
  | symbol (character : Char)
  | value (value : Value)
  deriving DecidableEq

/-- The position of the argument that a marker stands for, if so many markers came before it: the
number in the marker, or the next position. -/
def markerPosition (met : Nat) : List Char → Nat
  | _ :: digit :: digits => Nat.ofDigitChars 10 (digit :: digits) 0
  | _ => met + 1

/-- The items that tokens are read as after so many markers. A cast is passed over, as an argument
already is what it is cast to; a marker needs its argument, and a name its closing quote. -/
def supply (arguments : List Argument) : Nat → List Token → Option (List Item)
  | _, [] => some []
  | met, .symbol ':' :: .symbol ':' :: .word _ :: rest => supply arguments met rest
  | met, .marker text :: rest =>
    match markerPosition met text with
    | 0 => none
    | index + 1 =>
      match arguments[index]? with
      | none => none
      | some argument => (supply arguments (met + 1) rest).map (.value argument.1 :: ·)
  | met, .name name :: rest => (supply arguments met rest).map (.name (String.ofList name) :: ·)
  | met, .word text :: rest => (supply arguments met rest).map (.word (String.ofList text) :: ·)
  | met, .operator text :: rest =>
    (supply arguments met rest).map (.operator (String.ofList text) :: ·)
  | met, .symbol character :: rest => (supply arguments met rest).map (.symbol character :: ·)
  | _, .openName _ :: _ => none

/-- The comparison that an operator stands for. -/
def comparison? (operator : String) : Option Comparison :=
  [("=", .equal), ("<>", .notEqual), ("!=", .notEqual), (">", .greater), (">=", .greaterOrEqual),
    ("<", .less), ("<=", .lessOrEqual)].lookup operator

/-- The values of a list up to the parenthesis that closes it, of which there is at least one. -/
def listed? : List Item → Option (List Value)
  | [.value value, .symbol ')'] => some [value]
  | .value value :: .symbol ',' :: rest => (listed? rest).map (value :: ·)
  | _ => none

/-- The test that items are read as. -/
def test? : List Item → Option Test
  | [.name column, .operator operator, .value value] =>
    (comparison? operator).map fun comparison => .compare comparison column value
  | [.name column, .word "LIKE", .value pattern] => some (.like column pattern)
  | [.name column, .word "IS", .word "NULL"] => some (.absent false column)
  | [.name column, .word "IS", .word "NOT", .word "NULL"] => some (.absent true column)
  | .name column :: .word "IN" :: .symbol '(' :: rest => (listed? rest).map (.among false column)
  | .name column :: .word "NOT" :: .word "IN" :: .symbol '(' :: rest =>
    (listed? rest).map (.among true column)
  | [.word left, .operator "=", .word right] =>
    match Text.natural? left.toList, Text.natural? right.toList with
    | some left, some right => some (.numerals left right)
    | _, _ => none
  | _ => none

/-- The tests of a clause that items are read as; no items are no clause and put no tests. -/
def tests? : List Item → Option (List Test)
  | [] => some []
  | .word "WHERE" :: rest => (rest.splitOn (.word "AND")).mapM test?
  | _ => none

/-- The tests of a clause whose text follows so many markers. -/
def readWhere (quote : Char) (arguments : List Argument) (met : Nat) (clause : String) :
    Option (List Test) :=
  (supply arguments met (tokens quote clause.toList)).bind tests?

end RecordMapper.Sql
