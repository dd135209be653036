/-
This file proves that a WHERE clause means what its filters say. A filter speaks of the value in
the column that its key names, with its operands brought to the kind of that column; the clause is
a text with markers, read by a reader that knows nothing of filters. A row is kept by the clause
exactly if every filter holds of it. A list without operands becomes a test of two numerals, so that
nothing is among no values, and everything, absent values included, is outside of them.
-/

import RecordMapper.Proofs.Query.Composition
import RecordMapper.Proofs.Statement.Reading

namespace RecordMapper

open Sql

/-! ### What filters say -/

/-- The values that a filter compares with. -/
def Filter.operands : Filter → List Value
  | .compare _ _ value | .like _ value => [value]
  | .among _ _ values => values
  | .absent _ _ => []

/-- A filter holds of the value in a column of a kind. -/
def Filter.HoldsOf (product : Product) (kind : Kind) (cell : Value) : Filter → Prop
  | .compare comparison _ value => ∃ operand, ComesTo kind value operand ∧ cell ≠ .null ∧
      product.compares comparison cell operand = true
  | .like _ pattern => ∃ operand, ComesTo .text pattern operand ∧ cell ≠ .null ∧
      product.resembles cell operand = true
  | .among false _ values => ∃ value ∈ values, ∃ operand, ComesTo kind value operand ∧
      cell ≠ .null ∧ product.compares .equal cell operand = true
  | .among true _ values => ∀ value ∈ values, ∃ operand, ComesTo kind value operand ∧
      cell ≠ .null ∧ product.compares .equal cell operand = false
  | .absent false _ => cell = .null
  | .absent true _ => cell ≠ .null

/-- Nothing is among no values, and everything is outside of them, what is absent included. -/
theorem Filter.holdsOf_nil {product : Product} {kind : Kind} {cell : Value} {negated : Bool}
    {key : String} :
    (Filter.among negated key []).HoldsOf product kind cell ↔ negated = true := by
  cases negated with
  | false => simp [HoldsOf]
  | true => simp [HoldsOf]

/-- A filter holds of a row: it holds of the value in the column of the field that its key names. -/
def Filter.Holds (product : Product) (model : Model) (cells : Cells) (filter : Filter) : Prop :=
  ∃ field, model.resolve? filter.key = some field ∧
    filter.HoldsOf product field.kind (cells field.column)

/-! ### What conditions test -/

/-- The test that a condition puts to a row. -/
def Condition.test : Condition → Test
  | .compare comparison column value _ => .compare comparison column value
  | .like column pattern => .like column pattern
  | .among negated column values _ => .among negated column values
  | .absent negated column => .absent negated column
  | .constant holds => .numerals 1 (if holds then 1 else 0)

section

variable {product : Product} {cells : Cells} {field : Field} {kind : Kind} {cell : Value}
  {holds : Value → Value → Bool} {held : Bool}

/-- What is known between a cell and an operand, said of the value that comes to the operand. -/
theorem between_of_comes {value operand : Value} (present : value ≠ .null)
    (comes : ComesTo kind value operand) :
    between holds cell operand = some held ↔
      ∃ other, ComesTo kind value other ∧ cell ≠ .null ∧ holds cell other = held := by
  rw [between_eq_some]
  constructor
  · rintro ⟨known, -, found⟩
    exact ⟨operand, comes, known, found⟩
  · rintro ⟨other, otherComes, known, found⟩
    cases comes.symm.trans otherComes
    exact ⟨known, Value.coerce_ne_null comes present, found⟩

theorem exists_between_of_come {values operands : List Value}
    (present : ∀ value ∈ values, value ≠ .null)
    (come : List.Forall₂ (ComesTo kind) values operands) :
    (∃ operand ∈ operands, between holds cell operand = some held) ↔
      ∃ value ∈ values, ∃ operand, ComesTo kind value operand ∧ cell ≠ .null ∧
        holds cell operand = held := by
  induction come with
  | nil => simp
  | cons comes _ inductionHypothesis =>
    rw [List.forall_mem_cons] at present
    simp only [List.mem_cons, exists_eq_or_imp, between_of_comes present.1 comes,
      inductionHypothesis present.2]

theorem forall_between_of_come {values operands : List Value}
    (present : ∀ value ∈ values, value ≠ .null)
    (come : List.Forall₂ (ComesTo kind) values operands) :
    (∀ operand ∈ operands, between holds cell operand = some held) ↔
      ∀ value ∈ values, ∃ operand, ComesTo kind value operand ∧ cell ≠ .null ∧
        holds cell operand = held := by
  induction come with
  | nil => simp
  | cons comes _ inductionHypothesis =>
    rw [List.forall_mem_cons] at present
    rw [List.forall_mem_cons, List.forall_mem_cons, between_of_comes present.1 comes,
      inductionHypothesis present.2]

/-- The test of a condition is true of a row exactly if the filter holds that is carried over to
it. -/
theorem truth_of_carries {filter : Filter} {condition : Condition}
    (present : ∀ value ∈ filter.operands, value ≠ .null)
    (carries : Carries field filter condition) :
    condition.test.truth product cells = some true ↔
      filter.HoldsOf product field.kind (cells field.column) := by
  cases carries with
  | compare known comes => exact between_of_comes known comes
  | like comes => exact between_of_comes (present _ List.mem_cons_self) comes
  | @constant negated =>
    rw [Filter.holdsOf_nil]
    cases negated <;> simp [Condition.test, Test.truth]
  | @among negated key values operands _ come =>
    cases negated with
    | false =>
      show memberTruth product _ _ = _ ↔ _
      rw [memberTruth_eq_true]
      exact exists_between_of_come present come
    | true =>
      show (memberTruth product _ _).not = _ ↔ _
      rw [Truth.not_eq_true, memberTruth_eq_false]
      exact forall_between_of_come present come
  | @absent negated =>
    show some ((cells field.column).isNull != negated) = some true ↔ _
    cases negated with
    | false => simp [Filter.HoldsOf, Value.isNull_iff]
    | true =>
      simp only [Filter.HoldsOf, Bool.bne_true, Option.some.injEq, Bool.not_eq_true', ne_eq,
        ← Value.isNull_iff, Bool.not_eq_true]

end

/-! ### How conditions are read -/

/-- The items as which a condition is read. -/
def Condition.items : Condition → List Item
  | .compare comparison column value _ =>
    [.name column, .operator comparison.symbol, .value value]
  | .like column pattern => [.name column, .word "LIKE", .value pattern]
  | .among negated column values _ =>
    .name column :: (if negated then [.word "NOT", .word "IN"] else [.word "IN"]) ++
      .symbol '(' :: ([.symbol ','].intercalate (values.map fun value => [.value value]) ++
        [.symbol ')'])
  | .absent negated column =>
    .name column :: .word "IS" :: if negated then [.word "NOT", .word "NULL"] else [.word "NULL"]
  | .constant holds => [.word "1", .operator "=", .word (if holds then "1" else "0")]

section

variable {dialect : Dialect} {model : Model} {field : Field} {quote : Char}

/-- Items of separated fragments are separated as the fragments are. -/
theorem items_separated (separator : String) (items : List (List Fragment)) :
    (separated separator items).flatMap (Fragment.items quote) =
      (textItems quote separator).intercalate
        (items.map (List.flatMap (Fragment.items quote))) := by
  induction items with
  | nil => rfl
  | cons item rest inductionHypothesis =>
    cases rest with
    | nil => rw [List.map_singleton, List.intercalate_singleton, separated]
    | cons next others =>
      show (item ++ .text separator :: separated separator (next :: others)).flatMap _ = _
      rw [List.flatMap_append, List.flatMap_cons, inductionHypothesis]
      simp only [List.map_cons, List.intercalate_cons_cons, List.append_assoc]
      rfl

/-- The values of a list are read up to the parenthesis that closes it. -/
theorem listed?_values {values : List Value} (nonempty : values ≠ []) :
    listed? ([.symbol ','].intercalate (values.map fun value => [.value value]) ++ [.symbol ')']) =
      some values := by
  induction values with
  | nil => exact absurd rfl nonempty
  | cons value rest inductionHypothesis =>
    cases rest with
    | nil => rfl
    | cons next others =>
      have later := inductionHypothesis (List.cons_ne_nil next others)
      rw [List.map_cons] at later
      rw [List.map_cons, List.map_cons, List.intercalate_cons_cons, List.append_assoc]
      show (listed? ([.symbol ','].intercalate (_ :: _) ++ [.symbol ')'])).map (value :: ·) = _
      rw [later]
      rfl

/-- What a fixed text is read as does not depend on the quote. -/
theorem textItems_of_isFitting (plainQuote : isPlain quote = false) {start finish : Edge}
    {text : String} (fitting : isFitting start text.toList finish = true) :
    textItems quote text = textItems '"' text := by
  rw [textItems, textItems, tokens_of_isPlain plainQuote (isPlain_of_isFitting fitting)]

/-- A quoted column and a fixed text after it are read as the name of the column and the items of
the text. -/
theorem textItems_column (plainQuote : isPlain dialect.quoteCharacter = false) (column : String)
    {finish : Edge} {text : String} (fitting : isFitting .bound text.toList finish = true) :
    textItems dialect.quoteCharacter (dialect.quote column ++ text) =
      .name column :: textItems '"' text := by
  have flows := flows_of_isFitting plainQuote fitting
  rw [← textItems_of_isFitting plainQuote fitting, textItems, Dialect.quote, String.toList_append,
    String.toList_ofList, tokens_append (flows_quotedName _) flows, tokens, lex_quotedName,
    List.filterMap_append]
  show Item.name (String.ofList column.toList) :: _ = _
  rw [String.ofList_toList]
  rfl

/-- What is neither in a separator nor in one of several lists is not in them together. -/
theorem notMem_intercalate {Element : Type} {element : Element} {separator : List Element}
    {lists : List (List Element)} (apart : element ∉ separator)
    (absent : ∀ list ∈ lists, element ∉ list) : element ∉ separator.intercalate lists := by
  induction lists with
  | nil => exact List.not_mem_nil
  | cons list rest inductionHypothesis =>
    obtain ⟨first, others⟩ := List.forall_mem_cons.mp absent
    cases rest with
    | nil =>
      rw [List.intercalate_singleton]
      exact first
    | cons next later =>
      rw [List.intercalate_cons_cons, List.mem_append, List.mem_append]
      exact not_or.mpr ⟨not_or.mpr ⟨first, apart⟩, inductionHypothesis others⟩

/-- No word stands in a list of values. -/
theorem notMem_values (text : String) (values : List Value) :
    Item.word text ∉ [.symbol ','].intercalate (values.map fun value => [.value value]) :=
  notMem_intercalate (by simp) (by simp)

/-- The fragments of a condition are read as its items. -/
theorem items_of_condition (plainQuote : isPlain dialect.quoteCharacter = false)
    (condition : Condition) :
    (condition.fragments dialect).flatMap (Fragment.items dialect.quoteCharacter) =
      condition.items := by
  have column {name text : String} {finish : Edge}
      (fitting : isFitting .bound text.toList finish = true) :=
    textItems_column plainQuote name fitting
  cases condition with
  | compare comparison name value kind =>
    have fitting : isFitting .bound (" " ++ (comparison.symbol ++ " ")).toList .free = true := by
      cases comparison <;> decide
    show textItems _ (dialect.quote name ++ " " ++ comparison.symbol ++ " ") ++ _ = _
    rw [String.append_assoc, String.append_assoc, column fitting]
    cases comparison <;> rfl
  | like name pattern =>
    have fitting : isFitting .bound " LIKE ".toList .free = true := by decide
    show textItems _ (dialect.quote name ++ " LIKE ") ++ _ = _
    rw [column fitting]
    rfl
  | among negated name values kind =>
    have fitting : isFitting .bound (if negated then " NOT IN (" else " IN (").toList .free =
        true := by cases negated <;> decide
    have comma : isFitting .bound ", ".toList .free = true := by decide
    have closing : isFitting .bound ")".toList .bound = true := by decide
    rw [Condition.fragments, List.cons_append, List.flatMap_cons, List.flatMap_append,
      items_separated, List.flatMap_singleton, List.map_map]
    show textItems _ (dialect.quote name ++ if negated then " NOT IN (" else " IN (") ++
      ((textItems _ ", ").intercalate _ ++ textItems _ ")") = _
    rw [column fitting, textItems_of_isFitting plainQuote comma,
      textItems_of_isFitting plainQuote closing]
    cases negated <;> rfl
  | absent negated name =>
    have fitting : isFitting .bound (if negated then " IS NOT NULL" else " IS NULL").toList .bound =
        true := by cases negated <;> decide
    show textItems _ (dialect.quote name ++ if negated then " IS NOT NULL" else " IS NULL") ++ _ = _
    rw [column fitting]
    cases negated <;> rfl
  | constant holds =>
    have fitting : isFitting .free (if holds then "1=1" else "1=0").toList .bound = true := by
      cases holds <;> decide
    show textItems _ (if holds then "1=1" else "1=0") ++ _ = _
    rw [textItems_of_isFitting plainQuote fitting]
    cases holds <;> rfl

/-- The items of a condition are read as its test. -/
theorem test?_items {filter : Filter} {condition : Condition}
    (carries : Carries field filter condition) : test? condition.items = some condition.test := by
  cases carries with
  | @compare comparison key value operand _ comes => cases comparison <;> rfl
  | like comes => rfl
  | @constant negated => cases negated <;> rfl
  | @among negated key values operands nonempty come =>
    have listed : operands ≠ [] := by
      rintro rfl
      exact nonempty (List.forall₂_nil_right_iff.mp come)
    have read := listed?_values listed
    cases negated with
    | false => exact congrArg (Option.map _) read
    | true => exact congrArg (Option.map _) read
  | @absent negated => cases negated <;> rfl

/-- The words that occur in conditions. -/
def conditionWords : List String :=
  ["LIKE", "NOT", "IN", "IS", "NULL", "0", "1"]

/-- No other words occur in a condition. -/
theorem notMem_items {word : String} (other : word ∉ conditionWords) (condition : Condition) :
    .word word ∉ condition.items := by
  simp only [conditionWords, List.mem_cons, List.not_mem_nil, or_false, not_or] at other
  cases condition with
  | compare comparison name value kind => simp [Condition.items]
  | like name pattern => simp [Condition.items, other]
  | among negated name values kind =>
    have listed := notMem_values word values
    cases negated <;> simp [Condition.items, listed, other]
  | absent negated name => cases negated <;> simp [Condition.items, other]
  | constant holds => cases holds <;> simp [Condition.items, other]

/-- A clause is read as a word and the items of its conditions, between which AND stands. -/
theorem items_of_whereFragments (plainQuote : isPlain dialect.quoteCharacter = false)
    {found : List Condition} (nonempty : found ≠ []) :
    (whereFragments dialect found).flatMap (Fragment.items dialect.quoteCharacter) =
      .word "WHERE" :: [.word "AND"].intercalate (found.map Condition.items) := by
  have opening : isFitting .bound " WHERE ".toList .free = true := by decide
  have joining : isFitting .bound " AND ".toList .free = true := by decide
  have each : List.flatMap (Fragment.items dialect.quoteCharacter) ∘ Condition.fragments dialect =
      Condition.items := funext (items_of_condition plainQuote)
  rw [whereFragments, if_neg (by simpa using nonempty), List.flatMap_cons, items_separated,
    List.map_map, each]
  show textItems _ " WHERE " ++ (textItems _ " AND ").intercalate _ = _
  rw [textItems_of_isFitting plainQuote opening, textItems_of_isFitting plainQuote joining]
  rfl

theorem mapM_test? {found : List Condition}
    (carried : ∀ condition ∈ found, IsCarried model condition) :
    (found.map Condition.items).mapM test? = some (found.map Condition.test) := by
  induction found with
  | nil => rfl
  | cons condition rest inductionHypothesis =>
    rw [List.forall_mem_cons] at carried
    obtain ⟨⟨field, -, filter, carries⟩, others⟩ := carried
    rw [List.map_cons, List.mapM_cons, test?_items carries, inductionHypothesis others]
    rfl

/-- A clause is read as the tests of its conditions, and no clause as none. -/
theorem tests?_whereFragments (plainQuote : isPlain dialect.quoteCharacter = false)
    {found : List Condition} (carried : ∀ condition ∈ found, IsCarried model condition) :
    tests? ((whereFragments dialect found).flatMap (Fragment.items dialect.quoteCharacter)) =
      some (found.map Condition.test) := by
  by_cases unfiltered : found = []
  · rw [unfiltered]
    rfl
  · have apart : ∀ items ∈ found.map Condition.items, .word "AND" ∉ items := by
      intro items member
      obtain ⟨condition, -, rfl⟩ := List.mem_map.mp member
      exact notMem_items (by decide) condition
    rw [items_of_whereFragments plainQuote unfiltered, tests?,
      List.splitOn_intercalate _ apart (by simpa using unfiltered)]
    exact mapM_test? carried

end

/-! ### Clauses -/

/-- All that stands in a clause can be read. -/
theorem permits_readable (model : Model) :
    Permits (fun token => token.isReadable = true) [] model where
  bare token isBare := by
    cases token with
    | name quoted => rfl
    | word text => rfl
    | operator text => rfl
    | symbol character =>
      have noColon : (statementWords ++ []).contains ":" = false := by decide
      rw [Token.isBare, noColon, Bool.false_or] at isBare
      exact isBare
    | openName name => cases isBare
    | marker text => cases isBare
  table := rfl
  column _ _ := rfl

/-- The test of a filter's condition is true of a row exactly if the filter holds of the row. -/
theorem truth_of_condition {product : Product} {cells : Cells} {model : Model} {filter : Filter}
    {condition : Condition} (present : ∀ value ∈ filter.operands, value ≠ .null)
    (comes : filter.condition model = .ok condition) :
    condition.test.truth product cells = some true ↔ filter.Holds product model cells := by
  obtain ⟨field, resolved, carries⟩ := Filter.condition_eq_ok.mp comes
  rw [truth_of_carries present carries]
  constructor
  · exact fun holds => ⟨field, resolved, holds⟩
  · rintro ⟨other, otherResolved, holds⟩
    cases resolved.symm.trans otherResolved
    exact holds

/-- The tests of all conditions are true of a row exactly if all filters hold of it. -/
theorem conjunction_of_conditions {product : Product} {cells : Cells} {model : Model}
    {filters : List Filter} {found : List Condition}
    (carried : conditions model filters = .ok found)
    (present : ∀ filter ∈ filters, ∀ value ∈ filter.operands, value ≠ .null) :
    conjunction product cells (found.map Condition.test) = some true ↔
      ∀ filter ∈ filters, filter.Holds product model cells := by
  rw [conjunction_eq_true, List.forall_mem_map]
  have each := Outcome.mapM_eq_ok.mp carried
  clear carried
  induction each with
  | nil => simp
  | cons comes _ inductionHypothesis =>
    rw [List.forall_mem_cons] at present
    rw [List.forall_mem_cons, List.forall_mem_cons]
    exact and_congr (truth_of_condition present.1 comes) (inductionHypothesis present.2)

/-- A clause that is added to a statement is read, with the arguments of the whole, as tests that
keep a row exactly if every filter holds of the value in the column that its key names. This holds
under all dialects of the library and under every other that is lawful. -/
theorem whereClause_means :
    (∀ entry ∈ DialectRegistry.standard.entries, entry.2.IsLawful Dialect.productWords) ∧
    ∀ (dialect : Dialect) (words : List String), dialect.IsLawful words →
      ∀ (model : Model) (filters : List Filter) (found : List Condition),
        conditions model filters = .ok found →
        (∀ filter ∈ filters, ∀ value ∈ filter.operands, value ≠ .null) →
        ∀ earlier statement : Statement,
          statement = (whereFragments dialect found).foldl (Statement.add dialect) earlier →
          ∃ clause tests, statement.sql = earlier.sql ++ clause ∧
            readWhere dialect.quoteCharacter statement.arguments earlier.arguments.length clause =
              some tests ∧
            ∀ (product : Product) (cells : Cells),
              conjunction product cells tests = some true ↔
                ∀ filter ∈ filters, filter.Holds product model cells := by
  refine ⟨DialectRegistry.isLawful_standard, ?_⟩
  intro dialect words lawful model filters found carried present earlier statement made
  have known := isCarried_of_conditions carried
  have composes := Permits.whereFragments lawful.quoteCharacter (permits_readable model) known
  rw [foldl_add] at made
  refine ⟨written dialect earlier.arguments.length (whereFragments dialect found),
    found.map Condition.test, congrArg Statement.sql made, ?_, ?_⟩
  · have read := composes.reads lawful (congrArg Statement.arguments made)
    rw [readWhere, read]
    exact tests?_whereFragments lawful.quoteCharacter known
  · exact fun product cells => conjunction_of_conditions carried present

/-- Filters on the held seats of two rows. -/
def heldSeats : List Filter :=
  [.among false "row" [.int 3, .text "4"], .like "guest" (.text "A%"), .among true "number" []]

/-- Added to a statement with one argument already, the clause of the filters is read with the three
arguments after that one. -/
theorem whereClause_means_heldSeats :
    Dialect.postgres.IsLawful Dialect.productWords ∧
      (∀ filter ∈ heldSeats, ∀ value ∈ filter.operands, value ≠ .null) ∧
      ∃ model found statement, Query.freeSeats.model = .ok model ∧
        conditions model heldSeats = .ok found ∧
        statement = (whereFragments .postgres found).foldl (Statement.add .postgres)
          ⟨"SELECT $1", [(.int 0, .int)]⟩ ∧
        ∃ clause tests, statement.sql = "SELECT $1" ++ clause ∧
          readWhere '"' statement.arguments 1 clause = some tests ∧
          ∀ (product : Product) (cells : Cells),
            conjunction product cells tests = some true ↔
              ∀ filter ∈ heldSeats, filter.Holds product model cells := by
  have present : ∀ filter ∈ heldSeats, ∀ value ∈ filter.operands, value ≠ .null := by decide
  have resolves : (Query.freeSeats.model.toOption.bind fun model =>
      (conditions model heldSeats).toOption).isSome = true := by decide +kernel
  obtain ⟨found, comes⟩ := Option.isSome_iff_exists.mp resolves
  obtain ⟨model, resolved, carried⟩ := Option.bind_eq_some_iff.mp comes
  have carries := Outcome.toOption_eq_some.mp carried
  refine ⟨Dialect.isLawful_postgres, present, model, found, _,
    Outcome.toOption_eq_some.mp resolved, carries, rfl, ?_⟩
  exact whereClause_means.2 .postgres _ Dialect.isLawful_postgres model heldSeats found carries
    present _ _ rfl

end RecordMapper
