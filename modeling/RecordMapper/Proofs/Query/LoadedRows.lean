/-
This file says when the rows that a search is given are loaded. Each is loaded on its own, and a
search fails only where one of them makes no record. A row can be in order, every cell of it being
one that its field takes, and still make none: a field that its tag leaves out has no cell, and
loading hands it absence. The record takes that for what is kept out of the database, but a typed
field is one for the record whatever else its tag says. So rows in order are loaded exactly if every
typed field that its tag leaves out is optional.
-/

import RecordMapper.Proofs.Query.Collecting
import RecordMapper.Proofs.Query.Endings
import RecordMapper.Proofs.Query.HookDiscipline
import RecordMapper.Proofs.Record.Cells
import RecordMapper.Proofs.Record.RoundTrip

namespace RecordMapper

open Operation Outcome

/-! ### Fields that are left out -/

namespace RecordType

/-- Every typed field that its tag leaves out is optional. -/
def OmitsOptional (type : RecordType) : Prop :=
  ∀ declared ∈ type.fields, (FieldTag.parse declared.tag).isIgnored = true →
    ∀ columnType, declared.storage = .typed columnType → columnType.isOptional = true

/-- The cells of a row are in order: each is read as its field's kind, and its field takes what is
read. -/
def Fits (type : RecordType) (model : Model) (row : Row) : Prop :=
  ∀ column field, model.fields[column]? = some field →
    ∃ value, type.valueOfCell row column field = .ok value

variable {type : RecordType} {model : Model} {row : Row}

instance : Decidable (type.Fits model row) :=
  decidable_of_iff
    (∀ cell ∈ model.fields.zipIdx,
      (type.valueOfCell row cell.2 cell.1).toOption.isSome = true) <| by
    simp only [Fits, Prod.forall, List.mk_mem_zipIdx_iff_getElem?, Option.isSome_iff_exists,
      toOption_eq_some]
    exact forall_comm

/-- What puts up with absence is what is kept out of the database, what has no type, and what is
optional. -/
theorem toleratesAbsence_iff : type.ToleratesAbsence ↔ type.OmitsOptional := by
  refine forall_congr' fun declared => forall_congr' fun _ => forall_congr' fun _ => ?_
  cases stored : declared.storage with
  | keptOut typeName => simp [RecordField.store, stored]
  | untyped kind isOptional => simp [RecordField.store, stored]
  | typed columnType =>
    have takes : columnType.decodeField type.name declared.name (some .null) = .ok .null ↔
        columnType.isOptional = true := by
      rw [ColumnType.decodeField, mapError_eq_ok, Option.getD_some,
        ColumnType.convert_eq_ok (.inl rfl)]
      simp [ColumnType.holds, Value.isNull]
    simp only [RecordField.store, stored, takes, FieldStorage.typed.injEq, forall_eq']

/-- A row that is in order makes a record exactly if every typed field that is left out is
optional. -/
theorem Fits.exists_ofRow (fits : type.Fits model row) (resolves : type.ResolvesTo model) :
    (∃ loaded, type.ofRow model row = .ok loaded) ↔ type.OmitsOptional := by
  rw [← toleratesAbsence_iff]
  constructor
  · rintro ⟨loaded, made⟩
    exact (keeps_of_ofRow resolves made).2
  · intro tolerates
    obtain ⟨kept, keeps⟩ := exists_each fun column field listed => by
      rw [Nat.zero_add]
      exact fits column field listed
    exact ⟨_, ofRow_of_keeps resolves keeps tolerates⟩

/-- Where marks stand alone, no typed field is left out by its tag. -/
theorem HasTypes.omitsOptional (types : type.HasTypes) (marks : type.MarksAlone) :
    type.OmitsOptional := by
  intro declared member leftOut columnType typed
  rcases types declared member with ⟨-, typeName, keptOut⟩ | ⟨unmarked, -⟩
  · rw [typed] at keptOut
    cases keptOut
  · rw [marks.isMapped member unmarked] at leftOut
    cases leftOut

end RecordType

/-! ### Loading rows -/

/-- A record is loaded from a row: the row makes it, unless the hook for loaded records has changed
it since. -/
def IsLoaded (type : RecordType) (model : Model) (row : Row) (record : Record) : Prop :=
  ∃ made, type.ofRow model row = .ok made ∧
    (Hook.afterFind.runsOn model type = false → record = made)

/-- A row of several makes no record. -/
def Breaks (type : RecordType) (model : Model) (rows : List Row) : Prop :=
  ∃ row ∈ rows, ∃ error, type.ofRow model row = .error error

/-- The rows that an exchange delivers. -/
def Exchange.rows (exchange : Exchange) : List Row :=
  exchange.firstRow ++ exchange.allRows

/-- A search that is given rows loads all of them, or it fails as one of them makes no record. -/
def Delivers (type : RecordType) (model : Model) (rows : List Row) (error? : Option Error)
    (loaded : List Record) : Prop :=
  (error? = none ∧ List.Forall₂ (IsLoaded type model) rows loaded) ∨
    (error? ≠ none ∧ Breaks type model rows)

/-- What sends no statement is given no rows. -/
theorem rows_of_silent {exchanges : List Exchange} (silent : statements exchanges = []) :
    exchanges.flatMap Exchange.rows = [] := by
  refine List.flatMap_eq_nil_iff.mpr fun exchange member => ?_
  have unsent := List.filterMap_eq_nil_iff.mp silent exchange member
  cases exchange with
  | executed | fetchedFirst | fetchedAll => cases unsent
  | called | controlled | reported => rfl

namespace Query

variable {query : Query} {model : Model} {exchanges : List Exchange} {Held : Type}
  {held left : Held} {row : Row}

/-- Calling the hook for loaded records changes nothing but the record that it is called on. -/
theorem runs_afterFind {type : RecordType} {record : Record} {outcome : Except Error Record}
    (runs : Runs (Hook.afterFind.afterOn model type none record) held exchanges outcome left) :
    left = held ∧ ∃ saved, outcome = .ok saved ∧
      (Hook.afterFind.runsOn model type = false → saved = record) := by
  unfold Hook.afterOn at runs
  split at runs
  · rename_i enabled
    rcases runs_bind.mp runs with ⟨error, failed, -⟩ |
      ⟨opening, answer, middle, closing, -, called, later⟩
    · obtain ⟨answer, -, equal, -⟩ := runs_call.mp failed
      cases equal
    obtain ⟨given, -, -, rfl⟩ := runs_call.mp called
    rcases runs_bind.mp later with ⟨error, failed, -⟩ |
      ⟨reporting, _, last, finishing, -, reported, finished⟩
    · cases (Hook.runs_reportFailure failed).1
    obtain ⟨-, rfl, rfl⟩ := runs_pure.mp finished
    refine ⟨(Hook.runs_reportFailure reported).2.1, answer.record, rfl, fun idle => ?_⟩
    rw [enabled] at idle
    cases idle
  · obtain ⟨-, rfl, rfl⟩ := runs_pure.mp runs
    exact ⟨rfl, record, rfl, fun _ => rfl⟩

/-- Loading a row leaves what is held alone. It comes to a record, or fails if the row makes
none. -/
theorem runs_load_cases {outcome : Except Error Record}
    (runs : Runs (query.load model row) held exchanges outcome left) :
    left = held ∧
      ((∃ saved, outcome = .ok saved ∧ IsLoaded query.type model row saved) ∨
        ∃ error, outcome = .error error ∧ query.type.ofRow model row = .error error) := by
  rcases runs_ofExcept_bind.mp runs with ⟨error, refused, -, rfl, rfl⟩ | ⟨made, found, called⟩
  · exact ⟨rfl, .inr ⟨error, rfl, refused⟩⟩
  · obtain ⟨rfl, saved, rfl, kept⟩ := runs_afterFind called
    exact ⟨rfl, .inl ⟨saved, rfl, made, found, kept⟩⟩

/-- Loading rows in turn adds a record for each to those that are held. -/
theorem runs_loadEach {rows : List Row} {held left : List Record} {outcome : Except Error Unit}
    (runs : Runs (query.loadEach model rows) held exchanges outcome left) :
    (∃ loaded, outcome = .ok () ∧ left = held ++ loaded ∧
      List.Forall₂ (IsLoaded query.type model) rows loaded) ∨
    ((∃ error, outcome = .error error) ∧ Breaks query.type model rows) := by
  induction rows generalizing held exchanges with
  | nil =>
    obtain ⟨-, rfl, rfl⟩ := runs_pure.mp runs
    exact .inl ⟨[], rfl, (List.append_nil _).symm, .nil⟩
  | cons row rest inductionHypothesis =>
    rcases runs_bind.mp runs with ⟨error, failed, rfl⟩ |
      ⟨opening, record, middle, closing, rfl, first, others⟩
    · rcases runs_load_cases failed with ⟨-, ⟨_, equal, -⟩ | ⟨_, -, refused⟩⟩
      · cases equal
      · exact .inr ⟨⟨error, rfl⟩, row, List.mem_cons_self, _, refused⟩
    · rcases runs_load_cases first with ⟨rfl, ⟨_, equal, loadedFirst⟩ | ⟨_, equal, -⟩⟩
      · cases equal
        have later : Runs (query.loadEach model rest) (middle ++ [record]) closing outcome left :=
          others
        rcases inductionHypothesis later with
          ⟨loaded, rfl, rfl, loadedRest⟩ | ⟨failed, broken, member, refused⟩
        · exact .inl ⟨record :: loaded, rfl, List.append_assoc _ _ _, .cons loadedFirst loadedRest⟩
        · exact .inr ⟨failed, broken, List.mem_cons_of_mem _ member, refused⟩
      · cases equal

/-- Looking up one row delivers it if there is one. -/
theorem delivers_of_loadOne {name : String} {statement : Statement}
    {outcome : Except Error Record}
    (runs : Runs (query.loadOne model name statement) held exchanges outcome left)
    (delivered : exchanges.flatMap Exchange.rows ≠ []) :
    Delivers query.type model (exchanges.flatMap Exchange.rows) (errorOf outcome)
      outcome.toOption.toList := by
  rcases runs_bind.mp runs with ⟨error, failed, rfl⟩ |
    ⟨opening, found, middle, closing, rfl, fetched, loaded⟩
  · obtain ⟨answer, sent, equal⟩ := runs_during.mp failed
    obtain ⟨rfl, -⟩ := runs_fetchFirst.mp sent
    cases answer with
    | ok found => cases equal
    | error fault => exact absurd rfl delivered
  · obtain ⟨answer, sent, equal⟩ := runs_during.mp fetched
    obtain ⟨rfl, -⟩ := runs_fetchFirst.mp sent
    obtain rfl := mapError_eq_ok.mp equal.symm
    cases found with
    | none =>
      obtain ⟨rfl, -⟩ := runs_fail.mp loaded
      exact absurd rfl delivered
    | some row =>
      have rest := rows_of_silent (isSilent_load row _ _ _ _ loaded)
      have only : (([.fetchedFirst statement (.ok (some row))] : List Exchange) ++
          closing).flatMap Exchange.rows = [row] := by
        rw [List.flatMap_append, rest]
        rfl
      rw [only]
      rcases (runs_load_cases loaded).2 with ⟨saved, rfl, isLoaded⟩ | ⟨error, rfl, refused⟩
      · exact .inl ⟨rfl, .cons isLoaded .nil⟩
      · exact .inr ⟨nofun, row, List.mem_singleton_self row, error, refused⟩

/-- A search for all rows delivers those that there are. -/
theorem delivers_of_find {records loaded : List Record} {outcome : Except Error Unit}
    (found : query.model = .ok model)
    (runs : Runs query.find records exchanges outcome loaded)
    (delivered : exchanges.flatMap Exchange.rows ≠ []) :
    Delivers query.type model (exchanges.flatMap Exchange.rows) (errorOf outcome) loaded := by
  rcases runs_ofExcept_bind.mp (runs_hold_bind.mp runs) with
    ⟨error, -, rfl, -⟩ | ⟨other, prepared, searched⟩
  · exact absurd rfl delivered
  cases found.symm.trans (model_of_prepare prepared)
  rcases runs_ofExcept_bind.mp searched with ⟨error, -, rfl, -⟩ | ⟨statement, built, sent⟩
  · exact absurd rfl delivered
  rcases runs_bind.mp sent with ⟨error, failed, rfl⟩ |
    ⟨opening, rows, middle, closing, rfl, fetched, loadedEach⟩
  · obtain ⟨answer, sent, equal⟩ := runs_during.mp failed
    obtain ⟨rfl, -⟩ := runs_fetchAll.mp sent
    cases answer with
    | ok found => cases equal
    | error fault => exact absurd rfl delivered
  · obtain ⟨answer, sent, equal⟩ := runs_during.mp fetched
    obtain ⟨rfl, rfl⟩ := runs_fetchAll.mp sent
    obtain rfl := mapError_eq_ok.mp equal.symm
    have rest := rows_of_silent (isSilent_loadEach rows _ _ _ _ loadedEach)
    have all : (([.fetchedAll statement (.ok rows)] : List Exchange) ++
        closing).flatMap Exchange.rows = rows := by
      rw [List.flatMap_append, rest, List.append_nil, List.flatMap_singleton]
      rfl
    rw [all]
    rcases runs_loadEach loadedEach with ⟨records, rfl, rfl, each⟩ | ⟨⟨error, rfl⟩, breaks⟩
    · exact .inl ⟨rfl, each⟩
    · exact .inr ⟨nofun, breaks⟩

theorem delivers_of_findById {key : Value} {outcome : Except Error Record}
    (found : query.model = .ok model)
    (runs : Runs (query.findById key) held exchanges outcome left)
    (delivered : exchanges.flatMap Exchange.rows ≠ []) :
    Delivers query.type model (exchanges.flatMap Exchange.rows) (errorOf outcome)
      outcome.toOption.toList := by
  rcases runs_ofExcept_bind.mp runs with ⟨error, -, rfl, -⟩ | ⟨other, prepared, keyed⟩
  · exact absurd rfl delivered
  cases found.symm.trans (model_of_prepare prepared)
  cases key : model.soleKey? with
  | none =>
    rw [key] at keyed
    obtain ⟨rfl, -⟩ := runs_fail.mp keyed
    exact absurd rfl delivered
  | some field =>
    rw [key] at keyed
    rcases runs_ofExcept_bind.mp keyed with ⟨error, -, rfl, -⟩ | ⟨statement, -, sent⟩
    · exact absurd rfl delivered
    · exact delivers_of_loadOne sent delivered

theorem delivers_of_first {outcome : Except Error Record} (found : query.model = .ok model)
    (runs : Runs query.first held exchanges outcome left)
    (delivered : exchanges.flatMap Exchange.rows ≠ []) :
    Delivers query.type model (exchanges.flatMap Exchange.rows) (errorOf outcome)
      outcome.toOption.toList := by
  rcases runs_ofExcept_bind.mp runs with ⟨error, -, rfl, -⟩ | ⟨other, prepared, selected⟩
  · exact absurd rfl delivered
  cases found.symm.trans (model_of_prepare prepared)
  rcases runs_ofExcept_bind.mp selected with ⟨error, -, rfl, -⟩ | ⟨statement, -, sent⟩
  · exact absurd rfl delivered
  · exact delivers_of_loadOne sent delivered

theorem delivers_of_scan {outcome : Except Error (List Record)} (found : query.model = .ok model)
    (runs : Runs query.scan held exchanges outcome left)
    (delivered : exchanges.flatMap Exchange.rows ≠ []) :
    Delivers query.type model (exchanges.flatMap Exchange.rows) (errorOf outcome)
      (outcome.toOption.getD []) := by
  obtain ⟨answer, records, searched, rfl⟩ := find_of_runs_scan runs
  cases answer with
  | ok done => exact delivers_of_find found searched delivered
  | error error =>
    rcases delivers_of_find found searched delivered with ⟨equal, -⟩ | broken
    · cases equal
    · exact .inr broken

/-! ### Searches -/

/-- Whether a use is a search for records. -/
def Use.isSearch : Use → Bool
  | .findById _ | .first | .find _ | .scan => true
  | .create _ | .count | .updates _ _ | .delete _ | .paginate _ => false

/-- The records that a search loads. -/
def Use.loaded {State : Type} (environment : Environment State) (state : State) (query : Query) :
    Use → List Record
  | .findById key =>
    ((query.findById key : Operation Unit Record) ()).run environment state |>.1.1.toOption.toList
  | .first =>
    ((query.first : Operation Unit Record) ()).run environment state |>.1.1.toOption.toList
  | .find records => ((query.find records).run environment state).1.2
  | .scan =>
    ((query.scan : Operation Unit _) ()).run environment state |>.1.1.toOption.getD []
  | .create _ | .count | .updates _ _ | .delete _ | .paginate _ => []

/-- A search that is given rows delivers them. -/
theorem Use.delivers (query : Query) {model : Model} (found : query.model = .ok model) {use : Use}
    (searches : use.isSearch = true) {State : Type} (environment : Environment State)
    (state : State) {rows : List Row}
    (given : (use.exchanges environment state query).flatMap Exchange.rows = rows)
    (nonempty : rows ≠ []) :
    Delivers query.type model rows (use.error? environment state query)
      (use.loaded environment state query) := by
  subst given
  have ran {Result Held : Type} (operation : Operation Held Result) (held : Held) :=
    Program.runs_exchanges environment (operation held) state
  cases use with
  | findById key => exact delivers_of_findById found (ran _ ()) nonempty
  | first => exact delivers_of_first found (ran _ ()) nonempty
  | find records => exact delivers_of_find found (ran _ records) nonempty
  | scan => exact delivers_of_scan found (ran _ ()) nonempty
  | create | count | updates | delete | paginate => cases searches

/-- A row whose cells are in order makes a record, and a search that is given such rows succeeds and
loads all of them, exactly if every typed field that its tag leaves out is optional. So they do
where the mark that leaves a field out stands alone in every tag that has it. -/
theorem loads_fitting_iff (query : Query) {model : Model} (found : query.model = .ok model)
    (resolves : query.type.ResolvesTo model) :
    (∀ row, query.type.Fits model row →
      ((∃ loaded, query.type.ofRow model row = .ok loaded) ↔ query.type.OmitsOptional)) ∧
    (∀ use : Use, use.isSearch = true → ∀ {State : Type} (environment : Environment State)
      (state : State) (rows : List Row),
      (use.exchanges environment state query).flatMap Exchange.rows = rows → rows ≠ [] →
      (∀ row ∈ rows, query.type.Fits model row) →
        (use.error? environment state query = none ↔ query.type.OmitsOptional) ∧
        (query.type.OmitsOptional →
          List.Forall₂ (IsLoaded query.type model) rows (use.loaded environment state query))) ∧
    (query.type.HasTypes → query.type.MarksAlone → query.type.OmitsOptional) := by
  refine ⟨fun row fits => fits.exists_ofRow resolves, ?_, RecordType.HasTypes.omitsOptional⟩
  intro use searches State environment state rows given nonempty fits
  rcases use.delivers query found searches environment state given nonempty with
    ⟨succeeds, each⟩ | ⟨fails, row, member, error, refused⟩
  · have omits : query.type.OmitsOptional := by
      obtain ⟨row, member⟩ := List.exists_mem_of_ne_nil rows nonempty
      obtain ⟨record, -, made, found, -⟩ := exists_of_forall₂ each.flip member
      exact ((fits row member).exists_ofRow resolves).mp ⟨made, found⟩
    exact ⟨⟨fun _ => omits, fun _ => succeeds⟩, fun _ => each⟩
  · have requires : ¬ query.type.OmitsOptional := by
      intro omits
      obtain ⟨loaded, made⟩ := ((fits row member).exists_ofRow resolves).mpr omits
      cases refused.symm.trans made
    exact ⟨⟨fun succeeds => absurd succeeds fails, fun omits => absurd omits requires⟩,
      fun omits => absurd omits requires⟩

/-- A record type with a field that its tag leaves out and that may be absent. -/
def memo : RecordType where
  identity := 0
  name := "Memo"
  table := none
  fields := [⟨"id", .typed ⟨.integer .int64, false⟩, "primaryKey"⟩,
    ⟨"draft", .typed ⟨.string, true⟩, "-;size:20"⟩, ⟨"title", .typed ⟨.string, false⟩, ""⟩]
  hooks := []
  answers := []

/-- The query on all memos. -/
def memos : Query where
  dialect := .sqlite
  type := memo
  model := (Schema.resolve .snakeCasePlural memo.descriptor).2

/-- The only row that there is. -/
def planRow : Row :=
  [some (.bigInt 1), some (.text "Plan")]

/-- An environment in which every search finds the row. -/
def archive : Environment Unit :=
  { Environment.empty with
    fetchFirst := fun _ state => (.ok (some planRow), state)
    fetchAll := fun _ state => (.ok [planRow], state) }

/-- A memo is loaded without its draft. -/
theorem loads_fitting_iff_memo :
    ∃ model, memos.model = .ok model ∧ memo.ResolvesTo model ∧ memo.Fits model planRow ∧
      memo.OmitsOptional ∧ (Use.find []).error? archive () memos = none ∧
      (Use.find []).loaded archive () memos = [[.bigInt 1, .null, .text "Plan"]] ∧
      List.Forall₂ (IsLoaded memo model) [planRow] ((Use.find []).loaded archive () memos) := by
  have accepted : ((Schema.resolve .snakeCasePlural memo.descriptor).2.toOption.map fun model =>
      (decide (memo.Fits model planRow), (memo.ofRow model planRow).toOption)) =
      some (true, some [.bigInt 1, .null, .text "Plan"]) := by decide +kernel
  obtain ⟨model, found, looked⟩ := Option.map_eq_some_iff.mp accepted
  rw [toOption_eq_some] at found
  obtain ⟨fits, made⟩ := Prod.mk.inj looked
  have fits : memo.Fits model planRow := of_decide_eq_true fits
  rw [toOption_eq_some] at made
  have omits := (fits.exists_ofRow ⟨.snakeCasePlural, found⟩).mp ⟨_, made⟩
  have given : ((Use.find []).exchanges archive () memos).flatMap Exchange.rows = [planRow] := by
    decide +kernel
  have ran : (Use.find []).loaded archive () memos = [[.bigInt 1, .null, .text "Plan"]] := by
    decide +kernel
  obtain ⟨-, searched, -⟩ := memos.loads_fitting_iff found ⟨.snakeCasePlural, found⟩
  obtain ⟨ends, loads⟩ := searched (.find []) rfl archive () [planRow] given
    (List.cons_ne_nil _ _) (List.forall_mem_singleton.mpr fits)
  exact ⟨model, found, ⟨.snakeCasePlural, found⟩, fits, omits, ends.mpr omits, ran, loads omits⟩

/-- A record type like the one for memos whose draft has to be there. -/
def letter : RecordType :=
  { memo with
    name := "Letter"
    fields := [⟨"id", .typed ⟨.integer .int64, false⟩, "primaryKey"⟩,
      ⟨"draft", .typed ⟨.string, false⟩, "-;size:20"⟩, ⟨"title", .typed ⟨.string, false⟩, ""⟩] }

/-- The query on all letters. -/
def letters : Query where
  dialect := .sqlite
  type := letter
  model := (Schema.resolve .snakeCasePlural letter.descriptor).2

/-- A letter cannot be loaded from a row whose cells are all in order. What is in the way is a field
that no row has a cell for. -/
theorem letter_unloadable :
    letter.HasTypes ∧ ∃ model, letters.model = .ok model ∧ letter.ResolvesTo model ∧
      model.columns = ["id", "title"] ∧ letter.Fits model planRow ∧
      (∀ loaded, letter.ofRow model planRow ≠ .ok loaded) ∧
      ((Use.findById (.bigInt 1)).exchanges archive () letters).flatMap Exchange.rows = [planRow] ∧
      (Use.findById (.bigInt 1)).error? archive () letters ≠ none := by
  have types : letter.HasTypes := by
    intro field member
    simp only [letter, List.mem_cons, List.not_mem_nil, or_false] at member
    rcases member with rfl | rfl | rfl
    · exact .inr ⟨by decide, _, rfl⟩
    · exact .inr ⟨by decide, _, rfl⟩
    · exact .inr ⟨by decide, _, rfl⟩
  have accepted : ((Schema.resolve .snakeCasePlural letter.descriptor).2.toOption.map fun model =>
      (model.columns, decide (letter.Fits model planRow),
        (letter.ofRow model planRow).toOption)) = some (["id", "title"], true, none) := by
    decide +kernel
  obtain ⟨model, found, looked⟩ := Option.map_eq_some_iff.mp accepted
  rw [toOption_eq_some] at found
  obtain ⟨columns, others⟩ := Prod.mk.inj looked
  obtain ⟨fits, refused⟩ := Prod.mk.inj others
  have fails : ((Use.findById (.bigInt 1)).error? archive () letters).isSome = true := by
    decide +kernel
  refine ⟨types, model, found, ⟨.snakeCasePlural, found⟩, columns, of_decide_eq_true fits,
    fun loaded made => ?_, by decide +kernel, Option.isSome_iff_ne_none.mp fails⟩
  rw [made] at refused
  cases refused

end Query

end RecordMapper
