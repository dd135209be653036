/-
This file proves that nothing collected in a query gets lost. Calls may come in any number and
order. What each adds to the filters stands behind what was added before; a keyed condition that
makes no filter is remembered, and the first one remembered stays. Whatever is then done with the
query ends with the first error made, the one of the record type going before those of the
conditions, and it ends before a statement is sent, a hook is called or a record is touched. Without
an error every statement is sent under all filters that were collected.
-/

import RecordMapper.Proofs.Query.Endings
import RecordMapper.Proofs.Schema.Resolved

namespace RecordMapper

open Operation

namespace Query

/-! ### Calls -/

/-- Something that is collected in a query. -/
inductive Call
  | filter (filter : Filter)
  | whereKeys (entries : List (String × Operand))
  | whereRecord (record : Record)
  | orderBy (term : String)
  | take (count : UInt64)
  | skip (count : UInt64)
  | page (page : Page)

/-- The query with one more thing collected. -/
def Call.addTo (query : Query) : Call → Query
  | .filter added => query.filter added
  | .whereKeys entries => query.whereKeys entries
  | .whereRecord record => query.whereRecord record
  | .orderBy term => query.orderBy term
  | .take count => query.take count
  | .skip count => query.skip count
  | .page asked => asked.apply query

/-- The query with several things collected, in order. -/
def collect (query : Query) (calls : List Call) : Query :=
  calls.foldl Call.addTo query

/-- The faults of the keyed conditions of a call that make no filter, in order. -/
def Call.faults : Call → List FilterFault
  | .whereKeys entries =>
    entries.filterMap fun entry => Outcome.errorOf (Filter.ofKey entry.1 entry.2)
  | _ => []

/-- The filters that a call adds, in order: one that is given, those that keyed conditions make,
and those for what an example has set. -/
def Call.filters (model : Model) : Call → List Filter
  | .filter added => [added]
  | .whereKeys entries => entries.filterMap fun entry => (Filter.ofKey entry.1 entry.2).toOption
  | .whereRecord record => exampleFilters model record
  | _ => []

/-- The first error made in collecting: that of the record type if it does not resolve, or else that
of the first keyed condition that makes no filter. -/
def firstError (resolved : Except Error Model) (calls : List Call) : Option Error :=
  match resolved with
  | .error error => some error
  | .ok _ => (calls.flatMap Call.faults).head?.map .unsupportedFilter

/-! ### What a query holds after calls -/

/-- What collecting keeps as it was, and what it adds to a query: filters at the end, and a fault
only where there was none. -/
structure Extends (query further : Query) (faults : List FilterFault)
    (filters : Model → List Filter) : Prop where
  dialect : further.dialect = query.dialect
  type : further.type = query.type
  model : further.model = query.model
  malformed : further.malformed = query.malformed.or faults.head?
  filters : ∀ model, query.model = .ok model →
    further.filters = query.filters ++ filters model

section

variable {query further last : Query} {faults moreFaults : List FilterFault}
  {filters moreFilters : Model → List Filter}

/-- Collecting nothing changes nothing. -/
theorem Extends.refl (query : Query) : Extends query query [] fun _ => [] :=
  ⟨rfl, rfl, rfl, Option.or_none.symm, fun _ _ => (List.append_nil _).symm⟩

/-- What is collected first stands before what is collected then. -/
theorem Extends.trans (first : Extends query further faults filters)
    (second : Extends further last moreFaults moreFilters) :
    Extends query last (faults ++ moreFaults) fun model => filters model ++ moreFilters model where
  dialect := second.dialect.trans first.dialect
  type := second.type.trans first.type
  model := second.model.trans first.model
  malformed := by
    rw [second.malformed, first.malformed, List.head?_append, Option.or_assoc]
  filters model found := by
    rw [second.filters model (first.model.trans found), first.filters model found,
      List.append_assoc]

/-- One keyed condition adds its filter, or its fault where there is none yet. -/
theorem extends_whereKey (query : Query) (entry : String × Operand) :
    Extends query (query.whereKey entry) (Outcome.errorOf (Filter.ofKey entry.1 entry.2)).toList
      fun _ => (Filter.ofKey entry.1 entry.2).toOption.toList := by
  unfold whereKey
  cases Filter.ofKey entry.1 entry.2 with
  | ok filter => exact ⟨rfl, rfl, rfl, Option.or_none.symm, fun _ _ => rfl⟩
  | error fault =>
    refine ⟨rfl, rfl, rfl, ?_, fun _ _ => (List.append_nil _).symm⟩
    cases query.malformed <;> rfl

/-- Several keyed conditions add the filters of those that make one, and the fault of the first
that makes none. -/
theorem extends_whereKeys (query : Query) (entries : List (String × Operand)) :
    Extends query (query.whereKeys entries) (Call.faults (.whereKeys entries))
      fun model => Call.filters model (.whereKeys entries) := by
  induction entries generalizing query with
  | nil => exact .refl query
  | cons entry rest inductionHypothesis =>
    have joined := (extends_whereKey query entry).trans (inductionHypothesis (query.whereKey entry))
    have peeled : query.whereKeys (entry :: rest) = (query.whereKey entry).whereKeys rest :=
      List.foldl_cons ..
    simp only [Call.faults, Call.filters, List.filterMap_cons, peeled] at joined ⊢
    cases made : Filter.ofKey entry.1 entry.2 with
    | ok filter => simpa [made, Outcome.errorOf, Except.toOption] using joined
    | error fault => simpa [made, Outcome.errorOf, Except.toOption] using joined

/-- Each call adds its filters and its faults and leaves the rest of what decides about a use. -/
theorem extends_addTo (query : Query) (call : Call) :
    Extends query (call.addTo query) call.faults fun model => call.filters model := by
  cases call with
  | filter filter => exact ⟨rfl, rfl, rfl, Option.or_none.symm, fun _ _ => rfl⟩
  | whereKeys entries => exact extends_whereKeys query entries
  | whereRecord record =>
    cases found : query.model with
    | ok model =>
      have added : (Call.whereRecord record).addTo query =
          { query with filters := query.filters ++ exampleFilters model record } := by
        simp only [Call.addTo, whereRecord, found]
      rw [added]
      refine ⟨rfl, rfl, rfl, Option.or_none.symm, fun other same => ?_⟩
      obtain rfl : model = other := Except.ok.inj (found.symm.trans same)
      rfl
    | error error =>
      have kept : (Call.whereRecord record).addTo query = query := by
        simp only [Call.addTo, whereRecord, found]
      rw [kept]
      refine ⟨rfl, rfl, rfl, Option.or_none.symm, fun other same => ?_⟩
      rw [found] at same
      cases same
  | orderBy term => exact ⟨rfl, rfl, rfl, Option.or_none.symm, fun _ _ => (List.append_nil _).symm⟩
  | take count => exact ⟨rfl, rfl, rfl, Option.or_none.symm, fun _ _ => (List.append_nil _).symm⟩
  | skip count => exact ⟨rfl, rfl, rfl, Option.or_none.symm, fun _ _ => (List.append_nil _).symm⟩
  | page page => exact ⟨rfl, rfl, rfl, Option.or_none.symm, fun _ _ => (List.append_nil _).symm⟩

/-- After any calls a query has all their filters in order and the first of their faults. -/
theorem extends_collect (query : Query) (calls : List Call) :
    Extends query (query.collect calls) (calls.flatMap Call.faults)
      fun model => calls.flatMap (Call.filters model) := by
  induction calls generalizing query with
  | nil => exact .refl query
  | cons call rest inductionHypothesis =>
    exact (extends_addTo query call).trans (inductionHypothesis (call.addTo query))

end

/-- The model of a query, if it has one, is what its record type resolves to. -/
def IsResolved (query : Query) : Prop :=
  ∀ model, query.model = .ok model → query.type.ResolvesTo model

/-- However much is collected in a query, its model is that of its record type. -/
theorem isResolved_collect (dialect : Dialect) {cache : SchemaCache} {type : RecordType}
    (faithful : cache.IsFaithful type) (calls : List Call) :
    ((start dialect cache type).2.1.collect calls).IsResolved := by
  have extended := extends_collect (start dialect cache type).2.1 calls
  have sameModel : ((start dialect cache type).2.1.collect calls).model =
      (Schema.resolve cache.naming type.descriptor).2 := extended.model.trans faithful.model
  have sameType : ((start dialect cache type).2.1.collect calls).type = type := extended.type
  intro model found
  rw [sameType]
  exact ⟨cache.naming, sameModel.symm.trans found⟩

/-! ### Preparing what was collected -/

/-- Preparing a query that calls were collected in fails with the first error made. -/
theorem prepare_collect (dialect : Dialect) (cache : SchemaCache) (type : RecordType)
    (calls : List Call) :
    ((start dialect cache type).2.1.collect calls).prepare =
      match firstError (cache.model type).2.1 calls with
      | some error => .error error
      | none => (cache.model type).2.1 := by
  have extended := extends_collect (start dialect cache type).2.1 calls
  have begun : (start dialect cache type).2.1 =
    { dialect := dialect, type := type, model := (cache.model type).2.1 } := rfl
  rw [begun] at extended ⊢
  unfold prepare firstError
  rw [extended.model, extended.malformed, Option.none_or]
  cases (cache.model type).2.1 with
  | error error => rfl
  | ok model =>
    cases (calls.flatMap Call.faults).head? with
    | none => rfl
    | some fault => rfl

/-! ### Using what was collected -/

end Query

/-- The filters under which the statement of a plan is sent. -/
def Plan.filters : Plan → List Filter
  | .insert _ _ => []
  | .select filters _ _ _ | .count filters | .update _ filters | .delete filters => filters

namespace Query

/-- Whether a use is made of the rows that the filters of a query are about. -/
def Use.isFiltered : Use → Bool
  | .create _ => false
  | _ => true

/-- Every plan of a use that looks at the filters of a query has all of them in their order, with
those of a key before or behind them. -/
theorem Plans.isInfix {query : Query} {model : Model} {exchanges : List Exchange} {use : Use}
    {place : Nat} {plan : Plan} (plans : Plans query model exchanges use place plan)
    (filtered : use.isFiltered = true) : query.filters <:+: plan.filters := by
  cases plans with
  | create record => cases filtered
  | readBack record known => cases filtered
  | findById key keyed => exact (List.prefix_append _ _).isInfix
  | updates record changes pinned assigns => exact (List.suffix_append _ _).isInfix
  | delete record pinned => exact (List.suffix_append _ _).isInfix
  | first => exact List.infix_rfl
  | find records => exact List.infix_rfl
  | scan => exact List.infix_rfl
  | count => exact List.infix_rfl
  | total page => exact List.infix_rfl
  | page page => exact List.infix_rfl

/-- A malformed condition is never dropped. Whatever calls are collected in a query, if the record
type does not resolve or a keyed condition makes no filter, then every use ends with the first of
these errors, asks nothing of the environment and leaves the caller's record alone. Otherwise the
query has the filters that the calls add, one after the other, and every statement that is sent for
the rows they are about is sent under all of them. -/
theorem collected_kept (dialect : Dialect) (cache : SchemaCache) (type : RecordType)
    (calls : List Call) :
    (∀ error, firstError (cache.model type).2.1 calls = some error →
      ∀ (use : Use) {State : Type} (environment : Environment State) (state : State),
        use.error? environment state ((start dialect cache type).2.1.collect calls) = some error ∧
        use.exchanges environment state ((start dialect cache type).2.1.collect calls) = [] ∧
        use.left environment state ((start dialect cache type).2.1.collect calls) =
          use.untouched) ∧
    (firstError (cache.model type).2.1 calls = none →
      ∃ model, (cache.model type).2.1 = .ok model ∧
        ((start dialect cache type).2.1.collect calls).filters =
          calls.flatMap (Call.filters model) ∧
        ∀ (use : Use) {State : Type} (environment : Environment State) (state : State),
          use.isFiltered = true → ∀ statement ∈ statements
            (use.exchanges environment state ((start dialect cache type).2.1.collect calls)),
            ∃ plan : Plan, plan.statement model dialect = .ok statement ∧
              calls.flatMap (Call.filters model) <:+: plan.filters) := by
  have prepared := prepare_collect dialect cache type calls
  refine ⟨fun error first use State environment state => ?_, fun faultless => ?_⟩
  · rw [first] at prepared
    exact use.ends_of_unprepared prepared environment state
  · rw [faultless] at prepared
    obtain ⟨model, resolved⟩ : ∃ model, (cache.model type).2.1 = .ok model := by
      cases outcome : (cache.model type).2.1 with
      | ok model => exact ⟨model, rfl⟩
      | error error =>
        rw [outcome] at faultless
        cases faultless
    have extended := extends_collect (start dialect cache type).2.1 calls
    have filters : ((start dialect cache type).2.1.collect calls).filters =
        calls.flatMap (Call.filters model) :=
      (extended.filters model resolved).trans (List.nil_append _)
    refine ⟨model, resolved, filters, fun use State environment state filtered statement sent => ?_⟩
    obtain ⟨place, sentAt⟩ := List.mem_iff_getElem?.mp sent
    obtain ⟨other, plan, preparedOther, plans, built⟩ := use.plans environment state sentAt
    obtain rfl : other = model := by
      rw [prepared, resolved] at preparedOther
      exact (Except.ok.inj preparedOther).symm
    rw [extended.dialect] at built
    refine ⟨plan, built, ?_⟩
    rw [← filters]
    exact plans.isInfix filtered

/-- Conditions on free seats, the last of which asks for several numbers at once. -/
def freeSeatsOf (numbers : Operand) : List Call :=
  [.filter (.absent false "guest"), .take 5, .whereKeys [("row >", .single (.int 3)),
    ("number", numbers)]]

/-- A seat is not deleted under a condition that takes several numbers for one. With one number,
the conditions on free seats are all there. -/
theorem collected_kept_freeSeatsOf :
    let cache : SchemaCache := { naming := .snakeCasePlural }
    let query := fun numbers => (start .postgres cache seat).2.1.collect (freeSeatsOf numbers)
    firstError (cache.model seat).2.1 (freeSeatsOf (.list [])) =
        some (.unsupportedFilter (.wrongShape "number")) ∧
      (Use.delete [.int 3, .int 7, .null]).error? .empty () (query (.list [])) =
        some (.unsupportedFilter (.wrongShape "number")) ∧
      (Use.delete [.int 3, .int 7, .null]).exchanges .empty () (query (.list [])) = [] ∧
      firstError (cache.model seat).2.1 (freeSeatsOf (.single (.int 7))) = none ∧
      (query (.single (.int 7))).filters =
        [.absent false "guest", .compare .greater "row" (.int 3),
          .compare .equal "number" (.int 7)] := by
  have first : firstError ((SchemaCache.mk .snakeCasePlural []).model seat).2.1
      (freeSeatsOf (.list [])) = some (.unsupportedFilter (.wrongShape "number")) := by
    decide +kernel
  have faultless : firstError ((SchemaCache.mk .snakeCasePlural []).model seat).2.1
      (freeSeatsOf (.single (.int 7))) = none := by decide +kernel
  obtain ⟨ended, unasked, -⟩ := (collected_kept .postgres { naming := .snakeCasePlural } seat
    (freeSeatsOf (.list []))).1 _ first (.delete [.int 3, .int 7, .null]) .empty ()
  obtain ⟨model, -, filters, -⟩ := (collected_kept .postgres { naming := .snakeCasePlural } seat
    (freeSeatsOf (.single (.int 7)))).2 faultless
  have added : (freeSeatsOf (.single (.int 7))).flatMap (Call.filters model) =
      [.absent false "guest", .compare .greater "row" (.int 3),
        .compare .equal "number" (.int 7)] := by
    have row : Filter.ofKey "row >" (.single (.int 3)) =
        .ok (.compare .greater "row" (.int 3)) := by
      decide +kernel
    have number : Filter.ofKey "number" (.single (.int 7)) =
        .ok (.compare .equal "number" (.int 7)) := by
      decide +kernel
    simp [freeSeatsOf, Call.filters, row, number, Except.toOption]
  exact ⟨first, ended, unasked, faultless, filters.trans added⟩

end Query

end RecordMapper
