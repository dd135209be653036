/-
This file proves that counting and finding look at the same rows. Both put the conditions of the
query right behind the name of its table and bind nothing before, so the clause has the same text
and the same arguments in both, down to the numbers of its markers. A count has nothing behind the
clause: neither the order of rows nor how many are wanted matters to it. What keeps the clause from
being made keeps both from being sent, and with the same error. Reading a page comes to a count and
then a search, within the bounds of the page, that looks at the same rows.
-/

import RecordMapper.Proofs.Filter.Meaning
import RecordMapper.Proofs.Page.Windows
import RecordMapper.Proofs.Query.Endings
import RecordMapper.Proofs.Statement.Listed

namespace RecordMapper

open Operation Sql Text

/-! ### The two statements -/

/-- The text of the clause that conditions make where nothing is bound before. -/
def whereText (dialect : Dialect) (found : List Condition) : String :=
  written dialect 0 (whereFragments dialect found)

/-- The text of the order of rows. -/
def orderText (order : List String) : String :=
  if order.isEmpty then "" else " ORDER BY " ++ ", ".intercalate order

section

variable {model : Model} {dialect : Dialect} {filters : List Filter} {found : List Condition}
  {order : List String} {limit offset : Option Nat}

/-- A clause begins with its word, if there are conditions. -/
theorem whereText_cases (dialect : Dialect) (found : List Condition) :
    (found = [] ∧ whereText dialect found = "") ∨
      found ≠ [] ∧ ∃ tests, whereText dialect found = " WHERE " ++ tests := by
  by_cases unfiltered : found = []
  · exact .inl ⟨unfiltered, by rw [unfiltered]; rfl⟩
  · have opens : whereText dialect found = " WHERE " ++
        written dialect 0 (separated " AND " (found.map (Condition.fragments dialect))) := by
      rw [whereText, whereFragments, if_neg (by simpa using unfiltered), written]
    exact .inr ⟨unfiltered, _, opens⟩

theorem written_orderFragments (bound : Nat) (order : List String) :
    written dialect bound (orderFragments order) = orderText order := by
  unfold orderFragments orderText
  split
  · rfl
  · rw [written, written, String.append_empty]

/-- A count has the clause behind the table. -/
theorem countStatement_of_conditions (carried : conditions model filters = .ok found) :
    countStatement model dialect filters = .ok
      ⟨"SELECT COUNT(*) FROM " ++ dialect.quote model.table ++ whereText dialect found,
        supplied (whereFragments dialect found)⟩ := by
  rw [countStatement, carried]
  show Except.ok (Statement.ofFragments dialect _) = _
  rw [ofFragments_eq]
  rfl

/-- A selection has the clause behind the table as well, and then its order and its bounds. -/
theorem selectStatement_of_conditions (carried : conditions model filters = .ok found) :
    selectStatement model dialect filters order limit offset = .ok
      ⟨"SELECT " ++ ", ".intercalate (model.fields.map dialect.selectColumn) ++ " FROM " ++
          dialect.quote model.table ++ whereText dialect found ++ orderText order ++
          dialect.limitOffset limit offset,
        supplied (whereFragments dialect found)⟩ := by
  have unargued : supplied (orderFragments order ++ [.text (dialect.limitOffset limit offset)]) =
      [] := by
    unfold orderFragments
    split <;> rfl
  rw [selectStatement, carried]
  show Except.ok (Statement.ofFragments dialect _) = _
  rw [ofFragments_eq, List.cons_append, List.cons_append, List.append_assoc, written,
    written_append, written_append_text, written_orderFragments, supplied, supplied_append,
    unargued, List.append_nil, ← whereText, ← String.append_assoc, ← String.append_assoc]

end

/-! ### How a count is read -/

/-- The items as which a count is read. -/
def countItems (table : String) (found : List Condition) : List Item :=
  [.word "SELECT", .word "COUNT", .symbol '(', .symbol '*', .symbol ')', .word "FROM",
    .name table] ++
    if found.isEmpty then []
    else .word "WHERE" :: [.word "AND"].intercalate (found.map Condition.items)

/-- The words by which rows are put in order and bounds set to their number. -/
def boundingWords : List String :=
  ["ORDER", "BY", "LIMIT", "OFFSET"]

/-- None of them is read in a count. -/
theorem notMem_countItems {word : String} (bounding : word ∈ boundingWords) (table : String)
    (found : List Condition) : .word word ∉ countItems table found := by
  have others : ∀ word ∈ boundingWords,
      word ∉ conditionWords ∧ word ∉ ["SELECT", "COUNT", "FROM", "WHERE", "AND"] := by decide
  obtain ⟨notCondition, notOwn⟩ := others word bounding
  simp only [List.mem_cons, List.not_mem_nil, or_false, not_or] at notOwn
  have clause : .word word ∉ [.word "AND"].intercalate (found.map Condition.items) := by
    refine notMem_intercalate (by simp [notOwn]) fun items member => ?_
    obtain ⟨condition, -, rfl⟩ := List.mem_map.mp member
    exact notMem_items notCondition condition
  unfold countItems
  split <;> simp [notOwn, clause]

section

variable {dialect : Dialect} {words : List String} {model : Model} {filters : List Filter}
  {found : List Condition}

/-- A fixed text and a quoted name behind it are read as the items of the text and the name. -/
theorem textItems_append_quote (plainQuote : isPlain dialect.quoteCharacter = false)
    {text : String} (fitting : isFitting .free text.toList .free = true) (name : String) :
    textItems dialect.quoteCharacter (text ++ dialect.quote name) =
      textItems '"' text ++ [.name name] := by
  have flows := flows_of_isFitting plainQuote fitting
  rw [← textItems_of_isFitting plainQuote fitting, textItems, Dialect.quote, String.toList_append,
    String.toList_ofList, tokens_append flows (flows_quotedName _), List.filterMap_append]
  show _ ++ ((lex _ _).map Prod.fst).filterMap _ = _
  rw [lex_quotedName]
  show _ ++ [Item.name (String.ofList name.toList)] = _
  rw [String.ofList_toList]
  rfl

/-- A count is read, under a dialect that is lawful, as what stands in it and nothing else. -/
theorem supply_count (lawful : dialect.IsLawful words)
    (carried : conditions model filters = .ok found) {total : Statement}
    (built : countStatement model dialect filters = .ok total) :
    supply total.arguments 0 (tokens dialect.quoteCharacter total.sql.toList) =
      some (countItems model.table found) := by
  have permitted := permits_readable model
  have known := isCarried_of_conditions carried
  have table : Passage dialect.quoteCharacter (fun token => token.isReadable = true) .free
      ("SELECT COUNT(*) FROM " ++ dialect.quote model.table) .bound :=
    .append (permitted.phrase lawful.quoteCharacter (by decide)) (.of_quote permitted.table)
  have clause := permitted.whereFragments lawful.quoteCharacter known
  have unbound : supplied (whereFragments dialect found) =
      ([] : List Argument) ++ supplied (whereFragments dialect found) := rfl
  have read := Composes.reads lawful (.text table clause) unbound
  rw [countStatement_of_conditions carried] at built
  cases built
  refine read.trans (congrArg some ?_)
  rw [List.flatMap_cons, Fragment.items,
    textItems_append_quote lawful.quoteCharacter (by decide), countItems]
  by_cases unfiltered : found = []
  · rw [unfiltered]
    rfl
  · rw [items_of_whereFragments lawful.quoteCharacter unfiltered,
      if_neg (by simpa using unfiltered)]
    rfl

end

namespace Query

variable {query : Query} {error : Error}

/-! ### Refusal -/

/-- A use is refused in an environment: it fails before anything is asked. -/
def Use.Refuses {State : Type} (environment : Environment State) (state : State) (query : Query)
    (use : Use) (error : Error) : Prop :=
  use.error? environment state query = some error ∧ use.exchanges environment state query = []

/-- What a use sends in an environment. -/
def Use.sent {State : Type} (environment : Environment State) (state : State) (query : Query)
    (use : Use) : List Statement :=
  statements (use.exchanges environment state query)

section

variable {State : Type} {environment : Environment State} {state : State} {use : Use}

/-- A use is refused with one error. -/
theorem Use.Refuses.refuses_iff (refuses : use.Refuses environment state query error)
    {other : Error} : use.Refuses environment state query other ↔ other = error := by
  constructor
  · intro again
    exact Option.some_inj.mp (again.1.symm.trans refuses.1)
  · rintro rfl
    exact refuses

/-- A use that sends something is not refused. -/
theorem Use.not_refuses {statement : Statement} {others : List Statement}
    (sent : use.sent environment state query = statement :: others) :
    ¬ use.Refuses environment state query error := by
  rintro ⟨-, silent⟩
  rw [Use.sent, silent] at sent
  cases sent

end

/-- A query has no clause: it cannot be prepared, or one of its filters makes no condition. -/
inductive LacksClause (query : Query) (error : Error) : Prop
  | unprepared (refused : query.prepare = .error error)
  | unconditioned {model : Model} (prepared : query.prepare = .ok model)
    (refused : conditions model query.filters = .error error)

/-- The clause of a query can be made or not. -/
theorem lacksClause_or_made (query : Query) : (∃ error, query.LacksClause error) ∨
    ∃ model found, query.prepare = .ok model ∧ conditions model query.filters = .ok found := by
  cases prepared : query.prepare with
  | error error => exact .inl ⟨error, .unprepared prepared⟩
  | ok model =>
    cases carried : conditions model query.filters with
    | error error => exact .inl ⟨error, .unconditioned prepared carried⟩
    | ok found => exact .inr ⟨model, found, rfl, carried⟩

/-- A query without a clause is refused, whether its rows are counted, found or read as a page. -/
theorem LacksClause.refuses (lacks : query.LacksClause error) {State : Type}
    (environment : Environment State) (state : State) :
    Use.count.Refuses environment state query error ∧
      (∀ records, (Use.find records).Refuses environment state query error) ∧
      ∀ page, (Use.paginate page).Refuses environment state query error := by
  cases lacks with
  | unprepared refused =>
    have ends (use : Use) := use.ends_of_unprepared refused environment state
    exact ⟨⟨(ends _).1, (ends _).2.1⟩, fun records => ⟨(ends _).1, (ends _).2.1⟩,
      fun page => ⟨(ends _).1, (ends _).2.1⟩⟩
  | @unconditioned model prepared refused =>
    have counts : (query.count : Operation Unit Int64) = fail error := by
      rw [Query.count, prepared]
      show (ofExcept (countStatement model query.dialect query.filters) >>= _) = _
      rw [countStatement, refused]
      rfl
    have finds : query.find = fun _ => .done (.error error, []) := by
      rw [Query.find, prepared]
      show (hold [] >>= fun _ => ofExcept (selectStatement model query.dialect query.filters
        query.order query.limit query.offset) >>= _) = _
      rw [selectStatement, refused]
      rfl
    simp only [Use.Refuses, Use.error?, Use.exchanges, Page.load, counts, finds]
    exact ⟨⟨rfl, rfl⟩, fun records => ⟨rfl, rfl⟩, fun page => ⟨rfl, rfl⟩⟩

/-! ### The same rows -/

/-- A count and a selection look at the same rows of a query's table. -/
structure SameRows (query : Query) (limit offset : Option Nat) (total rows : Statement) :
    Prop where
  /-- Both have the clause of the query's filters, character for character, right behind the table;
  in the count nothing else stands there. -/
  texts : ∃ model found clause, query.prepare = .ok model ∧
    conditions model query.filters = .ok found ∧ clause = whereText query.dialect found ∧
    (query.filters = [] ∧ clause = "" ∨
      query.filters ≠ [] ∧ ∃ tests, clause = " WHERE " ++ tests) ∧
    total.sql = "SELECT COUNT(*) FROM " ++ query.dialect.quote model.table ++ clause ∧
    rows.sql = "SELECT " ++ ", ".intercalate (model.fields.map query.dialect.selectColumn) ++
      " FROM " ++ query.dialect.quote model.table ++ clause ++ orderText query.order ++
      query.dialect.limitOffset limit offset
  arguments : total.arguments = rows.arguments
  /-- No order and no bounds are read in the count. -/
  unbounded : ∀ words, query.dialect.IsLawful words →
    ∃ items, supply total.arguments 0
        (tokens query.dialect.quoteCharacter total.sql.toList) = some items ∧
      ∀ word ∈ boundingWords, .word word ∉ items

/-- Without conditions there is no clause, and with conditions it begins with its word. -/
theorem whereText_of_conditions {model : Model} {filters : List Filter} {found : List Condition}
    (carried : conditions model filters = .ok found) (dialect : Dialect) :
    filters = [] ∧ whereText dialect found = "" ∨
      filters ≠ [] ∧ ∃ tests, whereText dialect found = " WHERE " ++ tests := by
  have length := (Outcome.mapM_eq_ok.mp carried).length_eq
  have alike : found = [] ↔ filters = [] := by
    rw [← List.length_eq_zero_iff, ← List.length_eq_zero_iff, length]
  have cases := whereText_cases dialect found
  rw [ne_eq, alike] at cases
  exact cases

/-- Where the clause of a query can be made, a count and a selection can be made that look at the
same rows. -/
theorem exists_sameRows {model : Model} {found : List Condition}
    (prepared : query.prepare = .ok model) (carried : conditions model query.filters = .ok found)
    (limit offset : Option Nat) :
    ∃ total rows, countStatement model query.dialect query.filters = .ok total ∧
      selectStatement model query.dialect query.filters query.order limit offset = .ok rows ∧
      query.SameRows limit offset total rows := by
  have counted : countStatement model query.dialect query.filters = .ok _ :=
    countStatement_of_conditions carried
  refine ⟨_, _, counted, selectStatement_of_conditions carried, ?_⟩
  refine
    { texts := ⟨model, found, _, prepared, carried, rfl,
        whereText_of_conditions carried query.dialect, rfl, rfl⟩
      arguments := rfl
      unbounded := fun words lawful => ?_ }
  exact ⟨_, supply_count lawful carried counted,
    fun word bounding => notMem_countItems bounding model.table found⟩

/-- Reading a page sends the count, and the selection as well unless the count fails. -/
theorem sends_page {Held : Type} {page : Page} {held left : Held} {exchanges : List Exchange}
    {outcome : Except Error PageContent} {model : Model} {total rows : Statement}
    (prepared : query.prepare = .ok model)
    (counted : countStatement model query.dialect query.filters = .ok total)
    (selected : selectStatement model query.dialect query.filters query.order
      (page.apply query).limit (page.apply query).offset = .ok rows)
    (runs : Runs (page.load query) held exchanges outcome left) :
    statements exchanges = [total] ∧ (∃ error, outcome = .error error) ∨
      statements exchanges = [total, rows] := by
  have counts : Sends (query.count : Operation Held Int64) [total] := sends_count prepared counted
  have scans : Sends ((page.apply query).scan : Operation Held (List Record)) [rows] :=
    sends_scan prepared selected
  rcases runs_bind.mp runs with ⟨error, failed, rfl⟩ |
    ⟨opening, number, middle, closing, rfl, answered, loaded⟩
  · exact .inl ⟨counts _ _ _ _ failed, error, rfl⟩
  · have loads := scans.bind fun records =>
      isSilent_pure (PageContent.mk records number page (page.totalPages number))
    exact .inr (by rw [statements_append, counts _ _ _ _ answered, loads _ _ _ _ loaded]; rfl)

/-! ### Counting and finding -/

/-- The bounds of a page, as they stand at the end of a selection: for how many rows it has room,
and how many come before it. -/
def boundsText (page : Page) : String :=
  " LIMIT " ++ naturalText (min page.limit.toNat mostRows) ++
    " OFFSET " ++ naturalText (min (page.number.toNat * page.limit.toNat) mostRows)

/-- What it means that the rows of a query are counted as they are found. -/
structure CountsAsItFinds (query : Query) : Prop where
  /-- Counting is refused just if finding is, with the same error, whatever the environments. -/
  refuses : ∀ {State Other : Type} (environment : Environment State) (state : State)
    (other : Environment Other) (otherState : Other) (records : List Record) (error : Error),
    Use.count.Refuses environment state query error ↔
      (Use.find records).Refuses other otherState query error
  /-- Unless they are refused, both send one statement, and these look at the same rows. -/
  sends : ∀ {State Other : Type} (environment : Environment State) (state : State)
    (other : Environment Other) (otherState : Other) (records : List Record),
    (∃ error, Use.count.Refuses environment state query error) ∨
      ∃ total rows, query.SameRows query.limit query.offset total rows ∧
        Use.count.sent environment state query = [total] ∧
        (Use.find records).sent other otherState query = [rows]
  /-- Unless it is refused, reading a page sends a count, and then, if the count does not fail, a
  selection that looks at the same rows. It ends with the room of the page as its limit and the rows
  of the pages before as its offset, each kept within 63 bits. -/
  pages : ∀ {State : Type} (environment : Environment State) (state : State) (page : Page),
    (∃ error, (Use.paginate page).Refuses environment state query error) ∨
      ∃ total rows, query.SameRows (some (min page.limit.toNat mostRows))
          (some (min (page.number.toNat * page.limit.toNat) mostRows)) total rows ∧
        (∃ selection, rows.sql = selection ++ boundsText page) ∧
        ((Use.paginate page).sent environment state query = [total] ∧
            (∃ error, (Use.paginate page).error? environment state query = some error) ∨
          (Use.paginate page).sent environment state query = [total, rows])

/-- The rows of every query are counted as they are found. All dialects of the library are among
those under which a count is read. -/
theorem counts_asItFinds :
    (∀ entry ∈ DialectRegistry.standard.entries, entry.2.IsLawful Dialect.productWords) ∧
      ∀ query : Query, query.CountsAsItFinds := by
  refine ⟨DialectRegistry.isLawful_standard, fun query => ?_⟩
  rcases query.lacksClause_or_made with ⟨refusal, lacks⟩ | ⟨model, found, prepared, carried⟩
  · refine
      { refuses := fun environment state other otherState records error => ?_
        sends := fun environment state _ _ _ => .inl ⟨_, (lacks.refuses environment state).1⟩
        pages := fun environment state page =>
          .inl ⟨_, (lacks.refuses environment state).2.2 page⟩ }
    rw [(lacks.refuses environment state).1.refuses_iff,
      ((lacks.refuses other otherState).2.1 records).refuses_iff]
  · obtain ⟨total, rows, counted, selected, same⟩ :=
      exists_sameRows prepared carried query.limit query.offset
    have counts {State : Type} (environment : Environment State) (state : State) :
        Use.count.sent environment state query = [total] :=
      sends_count prepared counted _ _ _ _ (Program.runs_exchanges environment _ state)
    have finds {State : Type} (environment : Environment State) (state : State)
        (records : List Record) : (Use.find records).sent environment state query = [rows] :=
      sends_find prepared selected _ _ _ _ (Program.runs_exchanges environment _ state)
    refine
      { refuses := fun environment state other otherState records error => ?_
        sends := fun environment state other otherState records =>
          .inr ⟨total, rows, same, counts environment state, finds other otherState records⟩
        pages := fun environment state page => ?_ }
    · exact iff_of_false (Use.not_refuses (counts environment state))
        (Use.not_refuses (finds other otherState records))
    · obtain ⟨total, rows, counted, selected, same⟩ :=
        exists_sameRows prepared carried (page.apply query).limit (page.apply query).offset
      rw [(page.limits_apply query).1, (page.limits_apply query).2] at same
      obtain ⟨_, _, _, -, -, -, -, -, bounded⟩ := same.texts
      refine .inr ⟨total, rows, same, ⟨_, bounded⟩, ?_⟩
      rcases sends_page prepared counted selected (Program.runs_exchanges environment _ state) with
        ⟨sent, error, failed⟩ | sent
      · exact .inl ⟨sent, error, Outcome.errorOf_eq_some.mpr failed⟩
      · exact .inr sent

/-- The third page of the free seats of a row: both statements that are sent have the clause of the
count, the second one in the order and within the bounds that the count leaves out. -/
theorem counts_asItFinds_thirdPage :
    let query : Query := { freeSeats with
      filters := [.compare .equal "row" (.int 3), .absent false "guest"]
      order := ["number"] }
    let counting : Environment Unit := { Environment.empty with
      fetchFirst := fun _ state => (.ok (some [some (.bigInt 60)]), state) }
    let clause := " FROM \"seats\" WHERE \"row\" = $1 AND \"guest\" IS NULL"
    let total : Statement := ⟨"SELECT COUNT(*)" ++ clause, [(.int 3, .int)]⟩
    let rows : Statement := ⟨"SELECT \"row\", \"number\", \"guest\"" ++ clause ++
      " ORDER BY number LIMIT 25 OFFSET 50", [(.int 3, .int)]⟩
    (Use.paginate ⟨2, 25⟩).sent counting () query = [total, rows] ∧
      query.SameRows (some 25) (some 50) total rows := by
  intro query counting clause total rows
  have sent : (Use.paginate ⟨2, 25⟩).sent counting () query = [total, rows] := by
    decide +kernel
  refine ⟨sent, ?_⟩
  rcases (counts_asItFinds.2 query).pages counting () ⟨2, 25⟩ with
    ⟨error, refused⟩ | ⟨counted, selected, same, -, ⟨alone, -⟩ | both⟩
  · exact absurd refused (Use.not_refuses sent)
  · cases sent.symm.trans alone
  · cases sent.symm.trans both
    exact same

end Query

end RecordMapper
