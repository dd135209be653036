/-
This file proves that the creation of tables keeps to its plan. The plan of a record type is its
statements, or why it has none; that of a list of types is their plans in order. Whatever is
answered, what is sent is the beginning of the plan: it stops before the first type without a plan
and behind the first statement that fails, and the error says which of the two it was and for which
record. A model that is kept is the one that would be resolved again, so the plan of a second run is
the plan of the first.
-/

import RecordMapper.Dialect.Sqlite
import RecordMapper.Migration.Run
import RecordMapper.Proofs.Migration.Server
import RecordMapper.Proofs.Outcome
import RecordMapper.Proofs.Program.Operation
import RecordMapper.Proofs.Schema.Resolved

namespace RecordMapper

/-! ### Kept models -/

/-- What is kept for record types, if anything, is the models that they resolve to, and no two of
them pass for each other. -/
structure SchemaCache.IsFaithfulTo (cache : SchemaCache) (types : List RecordType) : Prop where
  isFaithful : ∀ type ∈ types, cache.IsFaithful type
  apart : ∀ first ∈ types, ∀ second ∈ types, first.identity = second.identity → first = second

/-- Asking for a model does not change the naming strategy. -/
theorem SchemaCache.naming_model (cache : SchemaCache) (type : RecordType) :
    (cache.model type).2.2.naming = cache.naming := by
  unfold model
  split
  · rfl
  · split <;> rfl

/-- Asking for the model of one of the types leaves what is kept faithful to them. -/
theorem SchemaCache.IsFaithfulTo.ask {cache : SchemaCache} {types : List RecordType}
    {type : RecordType} (faithful : cache.IsFaithfulTo types) (member : type ∈ types) :
    (cache.model type).2.2.IsFaithfulTo types where
  isFaithful other otherMember :=
    (faithful.isFaithful other otherMember).ask (faithful.apart type member other otherMember)
  apart := faithful.apart

namespace Migration

open Operation

/-! ### Plans -/

/-- The statements that create the table of a record type, or why there are none. -/
def planOf (naming : NamingStrategy) (dialect : Dialect) (type : RecordType) :
    Except Error (List Statement) := do
  let model ← (Schema.resolve naming type.descriptor).2
  (tableStatements model dialect).map fun statements => statements.map Statement.ofText

/-- The exchanges in which a statement is sent. -/
def requests (exchanges : List Exchange) : List Exchange :=
  exchanges.filter fun exchange => exchange.statement?.isSome

/-- The ways in which the creation of tables can end, with what is sent until then. -/
inductive Ending (plan : RecordType → Except Error (List Statement)) (types : List RecordType) :
    List Exchange → Except Error Unit → Prop
  /-- All types have a plan, and all of it is sent and succeeds. -/
  | done {blocks sent} : types.mapM plan = .ok blocks → List.Forall₂ Sent blocks.flatten sent →
      Ending plan types sent (.ok ())
  /-- A type has no plan, and the plans of those before it have been sent. -/
  | unplanned {earlier type later blocks sent error} : types = earlier ++ type :: later →
      earlier.mapM plan = .ok blocks → plan type = .error error →
        List.Forall₂ Sent blocks.flatten sent → Ending plan types sent (.error error)
  /-- A statement fails, and everything before it has been sent. -/
  | failed {earlier type later blocks own statement others sent fault} :
      types = earlier ++ type :: later → earlier.mapM plan = .ok blocks →
        plan type = .ok (own ++ statement :: others) →
          List.Forall₂ Sent (blocks.flatten ++ own) sent →
            Ending plan types (sent ++ [.executed statement (.error fault)])
              (.error (fault.during "migrate" type.name))

variable {Held : Type} {held left : Held} {exchanges : List Exchange} {outcome : Except Error Unit}

/-! ### Statements of one record -/

theorem requests_append (opening closing : List Exchange) :
    requests (opening ++ closing) = requests opening ++ requests closing :=
  List.filter_append ..

/-- Reports are no requests, and do nothing else. -/
theorem runs_reportAll {entries : List LogEntry}
    (runs : Runs (reportAll entries) held exchanges outcome left) :
    requests exchanges = [] ∧ outcome = .ok () ∧ left = held := by
  induction entries generalizing exchanges held with
  | nil =>
    obtain ⟨rfl, rfl, rfl⟩ := runs_pure.mp runs
    exact ⟨rfl, rfl, rfl⟩
  | cons entry rest inductionHypothesis =>
    rcases runs_bind.mp runs with ⟨error, failed, -⟩ | ⟨_, _, _, closing, rfl, reported, others⟩
    · cases (runs_report.mp failed).2.1
    · obtain ⟨rfl, -, rfl⟩ := runs_report.mp reported
      obtain ⟨silent, succeeds, same⟩ := inductionHypothesis others
      exact ⟨silent, succeeds, same⟩

/-- The statements of a record are all sent and succeed, or they are sent up to one that fails. -/
theorem runs_sendAll {record : String} {texts : List String}
    (runs : Runs (sendAll record texts) held exchanges outcome left) :
    left = held ∧ ((outcome = .ok () ∧
        List.Forall₂ Sent (texts.map Statement.ofText) (requests exchanges)) ∨
      ∃ own statement others sent fault, texts.map Statement.ofText = own ++ statement :: others ∧
        List.Forall₂ Sent own sent ∧
        requests exchanges = sent ++ [.executed statement (.error fault)] ∧
        outcome = .error (fault.during "migrate" record)) := by
  induction texts generalizing exchanges held with
  | nil =>
    obtain ⟨rfl, rfl, rfl⟩ := runs_pure.mp runs
    exact ⟨rfl, .inl ⟨rfl, .nil⟩⟩
  | cons text rest inductionHypothesis =>
    rcases runs_bind.mp runs with ⟨error, failed, rfl⟩ |
      ⟨opening, _, middle, closing, rfl, succeeded, others⟩
    · obtain ⟨answer, executed, same⟩ := runs_during.mp failed
      obtain ⟨rfl, rfl⟩ := runs_execute.mp executed
      cases answer with
      | ok _ => cases same
      | error fault =>
        cases same
        exact ⟨rfl, .inr ⟨[], _, _, [], fault, rfl, .nil, rfl, rfl⟩⟩
    · obtain ⟨answer, executed, same⟩ := runs_during.mp succeeded
      obtain ⟨rfl, rfl⟩ := runs_execute.mp executed
      have first : Sent (Statement.ofText text) (.executed (Statement.ofText text) answer) := by
        cases answer with
        | ok result => exact ⟨result, rfl⟩
        | error fault => cases same
      obtain ⟨rfl, ⟨rfl, each⟩ | ⟨own, statement, later, sent, fault, split, each, same, rfl⟩⟩ :=
        inductionHypothesis others
      · exact ⟨rfl, .inl ⟨rfl, .cons first each⟩⟩
      · refine ⟨rfl, .inr ⟨_ :: own, statement, later, _ :: sent, fault, ?_, .cons first each, ?_,
          rfl⟩⟩
        · rw [List.map_cons, split]
          rfl
        · rw [requests_append, same]
          rfl

/-! ### One record type -/

section

variable {cache kept : SchemaCache} {type : RecordType}

/-- Resolving a type sends nothing and keeps what asking for its model keeps. -/
theorem runs_resolve {outcome : Except Error Model}
    (runs : Runs (resolve type) cache exchanges outcome kept) :
    requests exchanges = [] ∧ outcome = (cache.model type).2.1 ∧ kept = (cache.model type).2.2 := by
  have opened : Runs (reportAll (cache.model type).1 >>= fun _ => ofExcept (cache.model type).2.1)
      (cache.model type).2.2 exchanges outcome kept := runs
  rcases runs_bind.mp opened with ⟨error, failed, -⟩ | ⟨_, _, _, _, rfl, reported, ended⟩
  · cases (runs_reportAll failed).2.1
  · obtain ⟨silent, -, rfl⟩ := runs_reportAll reported
    obtain ⟨rfl, rfl, rfl⟩ := runs_ofExcept.mp ended
    exact ⟨by rw [List.append_nil, silent], rfl, rfl⟩

/-- Creating the table of a type whose model is known faithfully keeps to the plan of the type: if
there is none that is all, and otherwise its statements are sent and succeed, or up to one that
fails. -/
theorem runs_createTable {dialect : Dialect} (faithful : cache.IsFaithful type)
    (runs : Runs (createTable dialect type) cache exchanges outcome kept) :
    kept = (cache.model type).2.2 ∧
      ((∃ error, planOf cache.naming dialect type = .error error ∧ requests exchanges = [] ∧
          outcome = .error error) ∨
        ∃ block, planOf cache.naming dialect type = .ok block ∧
          ((outcome = .ok () ∧ List.Forall₂ Sent block (requests exchanges)) ∨
            ∃ own statement others sent fault, block = own ++ statement :: others ∧
              List.Forall₂ Sent own sent ∧
              requests exchanges = sent ++ [.executed statement (.error fault)] ∧
              outcome = .error (fault.during "migrate" type.name))) := by
  have model := faithful.model
  rcases runs_bind.mp runs with ⟨error, failed, rfl⟩ | ⟨_, found, _, _, rfl, resolved, built⟩
  · obtain ⟨silent, same, rfl⟩ := runs_resolve failed
    refine ⟨rfl, .inl ⟨error, ?_, silent, rfl⟩⟩
    rw [planOf, ← model, ← same]
    rfl
  obtain ⟨silent, same, rfl⟩ := runs_resolve resolved
  rw [← same] at model
  have named : found.name = type.name := (Schema.maps_of_resolve model.symm).1
  rw [requests_append, silent, List.nil_append]
  have plan : planOf cache.naming dialect type =
      (tableStatements found dialect).map fun statements => statements.map Statement.ofText := by
    rw [planOf, ← model]
    rfl
  rcases runs_ofExcept_bind.mp built with ⟨error, refused, rfl, rfl, rfl⟩ | ⟨texts, written, sends⟩
  · exact ⟨rfl, .inl ⟨error, by rw [plan, refused]; rfl, rfl, rfl⟩⟩
  · obtain ⟨rfl, ends⟩ := runs_sendAll sends
    rw [named] at ends
    exact ⟨rfl, .inr ⟨_, by rw [plan, written]; rfl, ends⟩⟩

end

/-! ### All record types -/

section

variable {cache kept : SchemaCache} {dialect : Dialect} {types : List RecordType}

/-- Plans follow on the plan of a type. -/
theorem mapM_plan_cons {plan : RecordType → Except Error (List Statement)} {type : RecordType}
    {block : List Statement} {blocks : List (List Statement)} (planned : plan type = .ok block)
    (others : types.mapM plan = .ok blocks) : (type :: types).mapM plan = .ok (block :: blocks) :=
  Outcome.mapM_eq_ok.mpr (.cons planned (Outcome.mapM_eq_ok.mp others))

/-- What follows on a type whose plan has been sent in full ends as it does by itself. -/
theorem Ending.cons {plan : RecordType → Except Error (List Statement)} {type : RecordType}
    {block : List Statement} {sent later : List Exchange} (planned : plan type = .ok block)
    (each : List.Forall₂ Sent block sent) (ending : Ending plan types later outcome) :
    Ending plan (type :: types) (sent ++ later) outcome := by
  cases ending with
  | done others eachLater =>
    exact .done (mapM_plan_cons planned others) (List.rel_append each eachLater)
  | unplanned split others refused eachLater =>
    exact .unplanned (congrArg (type :: ·) split) (mapM_plan_cons planned others) refused
      (List.rel_append each eachLater)
  | failed split others stopping eachLater =>
    rw [← List.append_assoc]
    refine .failed (congrArg (type :: ·) split) (mapM_plan_cons planned others) stopping ?_
    rw [List.flatten_cons, List.append_assoc]
    exact List.rel_append each eachLater

/-- Every run ends in one of these ways, and leaves what is kept faithful to all types it was
faithful to. -/
theorem ending_of_runs {known : List RecordType} (faithful : cache.IsFaithfulTo known)
    (among : ∀ type ∈ types, type ∈ known)
    (runs : Runs (createTables dialect types) cache exchanges outcome kept) :
    Ending (planOf cache.naming dialect) types (requests exchanges) outcome ∧
      kept.naming = cache.naming ∧ kept.IsFaithfulTo known := by
  induction types generalizing cache exchanges with
  | nil =>
    obtain ⟨rfl, rfl, rfl⟩ := runs_pure.mp runs
    exact ⟨.done rfl .nil, rfl, faithful⟩
  | cons type rest inductionHypothesis =>
    obtain ⟨member, others⟩ := List.forall_mem_cons.mp among
    have first := faithful.isFaithful type member
    have asked := faithful.ask member
    have naming := cache.naming_model type
    rcases runs_bind.mp runs with ⟨error, stopped, rfl⟩ |
      ⟨opening, _, middle, closing, rfl, created, later⟩
    · obtain ⟨rfl, ⟨fault, plan, silent, same⟩ | ⟨block, plan, ⟨same, -⟩ |
        ⟨own, statement, tail, sent, fault, rfl, each, same, equal⟩⟩⟩ :=
        runs_createTable first stopped
      · cases same
        rw [silent]
        exact ⟨.unplanned (List.nil_append _).symm rfl plan .nil, naming, asked⟩
      · cases same
      · cases equal
        rw [same]
        exact ⟨.failed (List.nil_append _).symm rfl plan each, naming, asked⟩
    · obtain ⟨rfl, ⟨_, -, -, same⟩ | ⟨block, plan, ⟨-, each⟩ | ⟨_, _, _, _, _, -, -, -, same⟩⟩⟩ :=
        runs_createTable first created
      · cases same
      · obtain ⟨ending, kept, still⟩ := inductionHypothesis asked others later
        rw [naming] at ending kept
        rw [requests_append]
        exact ⟨ending.cons plan each, kept, still⟩
      · cases same

end

/-! ### What a plan comes to -/

/-- What is sent, and how it ends, keeps to the plans of record types. -/
structure KeepsTo (plan : RecordType → Except Error (List Statement)) (types : List RecordType)
    (exchanges : List Exchange) (outcome : Except Error Unit) : Prop where
  /-- Where all types have a plan, the beginning of it is sent, and all goes well exactly if all of
  it is sent and succeeds. -/
  planned : ∀ blocks, types.mapM plan = .ok blocks →
    statements exchanges <+: blocks.flatten ∧
      (outcome = .ok () ↔ List.Forall₂ Sent blocks.flatten (requests exchanges))
  /-- Where a type has no plan, nothing is sent for it or those behind it; for those before it, all
  is sent if no statement fails, and then the error is why the type has no plan. -/
  unplanned : ∀ earlier type later blocks error, types = earlier ++ type :: later →
    earlier.mapM plan = .ok blocks → plan type = .error error →
      statements exchanges <+: blocks.flatten ∧ outcome ≠ .ok () ∧
        ((∀ statement fault, .executed statement (.error fault) ∉ exchanges) →
          statements exchanges = blocks.flatten ∧ outcome = .error error)
  /-- Where a statement fails, nothing is sent after it; before it, all was sent that is planned
  before it, and the error has the name of the record to whose plan it belongs. -/
  failed : ∀ opening statement fault closing,
    exchanges = opening ++ .executed statement (.error fault) :: closing →
      statements closing = [] ∧ ∃ earlier type later blocks own others,
        types = earlier ++ type :: later ∧ earlier.mapM plan = .ok blocks ∧
          plan type = .ok (own ++ statement :: others) ∧
          statements opening = blocks.flatten ++ own ∧
          outcome = .error (fault.during "migrate" type.name) ∧
          ∀ cause, fault = .database cause →
            outcome = .error (.execution "migrate" type.name cause)

section

variable {plan : RecordType → Except Error (List Statement)} {earlier later : List RecordType}
  {type : RecordType}

/-- Plans can be parted where the types can. -/
theorem mapM_plan_split {blocks : List (List Statement)}
    (planned : (earlier ++ type :: later).mapM plan = .ok blocks) :
    ∃ before block after, blocks = before ++ block :: after ∧ earlier.mapM plan = .ok before ∧
      plan type = .ok block := by
  obtain ⟨before, rest, rfl, opened, closed⟩ := Outcome.mapM_append_eq_ok.mp planned
  obtain ⟨block, after, found, -, rfl⟩ :=
    List.forall₂_cons_left_iff.mp (Outcome.mapM_eq_ok.mp closed)
  exact ⟨before, block, after, rfl, opened, found⟩

/-- Types that all have plans end before the first that has none. -/
theorem exists_between_of_unplanned {shorter others : List RecordType} {other : RecordType}
    {blocks : List (List Statement)} {error : Error}
    (split : earlier ++ type :: later = shorter ++ other :: others)
    (refused : plan type = .error error) (planned : shorter.mapM plan = .ok blocks) :
    ∃ between, earlier = shorter ++ between ∧ other :: others = between ++ type :: later := by
  rcases List.append_eq_append_iff.mp split with ⟨more, rfl, rest⟩ | ⟨between, rfl, rest⟩
  · cases more with
    | nil => exact ⟨[], by simp, rest.symm⟩
    | cons next tail =>
      cases rest
      obtain ⟨_, block, _, -, -, found⟩ := mapM_plan_split planned
      cases refused.symm.trans found
  · exact ⟨between, rfl, rest⟩

theorem statements_requests (exchanges : List Exchange) :
    statements (requests exchanges) = statements exchanges := by
  rw [statements, requests, List.filterMap_filter]
  refine List.filterMap_congr fun exchange _ => ?_
  cases exchange.statement? <;> rfl

/-- What has been sent with success is the statements. -/
theorem statements_of_sent {block : List Statement} {sent : List Exchange}
    (each : List.Forall₂ Sent block sent) : statements sent = block := by
  induction each with
  | nil => rfl
  | cons first _ inductionHypothesis =>
    obtain ⟨result, rfl⟩ := first
    exact congrArg (_ :: ·) inductionHypothesis

theorem notMem_of_sent {block : List Statement} {sent : List Exchange}
    (each : List.Forall₂ Sent block sent) (statement : Statement) (fault : Error) :
    .executed statement (.error fault) ∉ sent := by
  intro member
  obtain ⟨_, -, result, same⟩ := Outcome.exists_of_forall₂ each member
  cases same

/-- Where all that is sent succeeds, no failure is to be found. -/
theorem ne_append_failure_of_sent {block : List Statement}
    (each : List.Forall₂ Sent block (requests exchanges)) {opening closing : List Exchange}
    {statement : Statement} {fault : Error} :
    exchanges ≠ opening ++ .executed statement (.error fault) :: closing := by
  rintro rfl
  refine notMem_of_sent each statement fault (List.mem_filter.mpr ⟨?_, rfl⟩)
  exact List.mem_append_right _ List.mem_cons_self

/-- The one failure among what is sent stands at its end. -/
theorem eq_of_append_failure {block : List Statement} {sent opening closing : List Exchange}
    {last : Exchange} {statement : Statement} {fault : Error}
    (each : List.Forall₂ Sent block sent)
    (split : sent ++ [last] = opening ++ .executed statement (.error fault) :: closing) :
    opening = sent ∧ last = .executed statement (.error fault) ∧ closing = [] := by
  rcases List.eq_nil_or_concat closing with rfl | ⟨body, final, rfl⟩
  · obtain ⟨rfl, same⟩ := List.append_inj' split rfl
    cases same
    exact ⟨rfl, rfl, rfl⟩
  · rw [List.concat_eq_append, ← List.cons_append, ← List.append_assoc] at split
    obtain ⟨rfl, -⟩ := List.append_inj' split rfl
    exact absurd (List.mem_append_right _ List.mem_cons_self) (notMem_of_sent each statement fault)

variable {types : List RecordType} {blocks : List (List Statement)} {sent : List Exchange}

/-- Where all types have plans that are sent in full and succeed, the plans are kept to. -/
theorem keepsTo_of_done (planned : types.mapM plan = .ok blocks)
    (each : List.Forall₂ Sent blocks.flatten (requests exchanges)) :
    KeepsTo plan types exchanges (.ok ()) where
  planned others plannedToo := by
    cases planned.symm.trans plannedToo
    rw [← statements_requests, statements_of_sent each]
    exact ⟨List.prefix_rfl, iff_of_true rfl each⟩
  unplanned earlier type later others error split _ refused := by
    subst split
    obtain ⟨_, _, _, -, -, found⟩ := mapM_plan_split planned
    cases refused.symm.trans found
  failed opening statement fault closing split := absurd split (ne_append_failure_of_sent each)

/-- Where all is sent and succeeds up to a type without a plan, the plans are kept to. -/
theorem keepsTo_of_unplanned {error : Error} (planned : earlier.mapM plan = .ok blocks)
    (refused : plan type = .error error)
    (each : List.Forall₂ Sent blocks.flatten (requests exchanges)) :
    KeepsTo plan (earlier ++ type :: later) exchanges (.error error) where
  planned others plannedToo := by
    obtain ⟨_, _, _, -, -, found⟩ := mapM_plan_split plannedToo
    cases refused.symm.trans found
  unplanned before stopper after others fault split plannedToo refusedToo := by
    -- Either of the two types stands before or at the other, so they are one.
    obtain ⟨between, rfl, rest⟩ := exists_between_of_unplanned split.symm refusedToo planned
    obtain ⟨again, equal, -⟩ := exists_between_of_unplanned split refused plannedToo
    rw [List.append_assoc, List.self_eq_append_right, List.append_eq_nil_iff] at equal
    obtain ⟨rfl, -⟩ := equal
    cases rest
    rw [List.append_nil, planned] at plannedToo
    cases plannedToo
    cases refused.symm.trans refusedToo
    rw [← statements_requests, statements_of_sent each]
    exact ⟨List.prefix_rfl, nofun, fun _ => ⟨rfl, rfl⟩⟩
  failed opening statement fault closing split := absurd split (ne_append_failure_of_sent each)

/-- Where all is sent and succeeds up to a statement that fails, the plans are kept to. -/
theorem keepsTo_of_failed {own others : List Statement} {last : Statement} {cause : Error}
    (planned : earlier.mapM plan = .ok blocks) (block : plan type = .ok (own ++ last :: others))
    (each : List.Forall₂ Sent (blocks.flatten ++ own) sent)
    (same : requests exchanges = sent ++ [.executed last (.error cause)]) :
    KeepsTo plan (earlier ++ type :: later) exchanges
      (.error (cause.during "migrate" type.name)) := by
  have written : statements exchanges = blocks.flatten ++ own ++ [last] := by
    rw [← statements_requests, same, statements_append, statements_of_sent each]
    rfl
  have listed : .executed last (.error cause) ∈ requests exchanges := by
    rw [same]
    exact List.mem_append_right _ List.mem_cons_self
  -- The plan of the type goes on behind the statement that failed.
  have begins (rest : List (List Statement)) :
      statements exchanges <+: (blocks ++ (own ++ last :: others) :: rest).flatten := by
    refine ⟨others ++ rest.flatten, ?_⟩
    simp [written]
  refine ⟨fun all plannedToo => ?_,
    fun before stopper after all error split plannedToo refused => ?_,
    fun opening statement fault closing split => ?_⟩
  · obtain ⟨_, _, rest, rfl, ahead, found⟩ := mapM_plan_split plannedToo
    cases planned.symm.trans ahead
    cases block.symm.trans found
    exact ⟨begins rest, iff_of_false nofun fun whole => notMem_of_sent whole last cause listed⟩
  · obtain ⟨between, rfl, rest⟩ := exists_between_of_unplanned split.symm refused planned
    cases between with
    | nil =>
      cases rest
      cases block.symm.trans refused
    | cons next tail =>
      cases rest
      obtain ⟨_, _, rest, rfl, ahead, found⟩ := mapM_plan_split plannedToo
      cases planned.symm.trans ahead
      cases block.symm.trans found
      exact ⟨begins rest, nofun, fun spared =>
        absurd (List.mem_filter.mp listed).1 (spared last cause)⟩
  · have parted : sent ++ [.executed last (.error cause)] =
        requests opening ++ .executed statement (.error fault) :: requests closing := by
      rw [← same, split, requests_append]
      rfl
    obtain ⟨ahead, equal, behind⟩ := eq_of_append_failure each parted
    cases equal
    refine ⟨by rw [← statements_requests, behind]; rfl, earlier, type, later, blocks, own, others,
      rfl, planned, block, ?_, rfl, fun _ equal => by rw [equal]; rfl⟩
    rw [← statements_requests, ahead, statements_of_sent each]

/-- However it ends, the plans are kept to. -/
theorem Ending.keepsTo (ending : Ending plan types (requests exchanges) outcome) :
    KeepsTo plan types exchanges outcome := by
  generalize same : requests exchanges = sent at ending
  cases ending with
  | done planned each => exact keepsTo_of_done planned (same ▸ each)
  | unplanned split planned refused each =>
    rw [split]
    exact keepsTo_of_unplanned planned refused (same ▸ each)
  | failed split planned block each =>
    rw [split]
    exact keepsTo_of_failed planned block each same

end

/-! ### Runs -/

/-- The creation of tables keeps to its plan, whatever is answered: the beginning of the planned
statements is sent, up to the first record type without a plan or behind the first statement that
fails, and the error tells which. The models that a run leaves behind are those it would resolve, so
a second run, with whatever answers, has the same plan. -/
theorem createTables_keepsTo (dialect : Dialect) {cache : SchemaCache} {types : List RecordType}
    (faithful : cache.IsFaithfulTo types) {State : Type} (environment : Environment State)
    (state : State) :
    ∃ outcome left,
      ((createTables dialect types cache).run environment state).1 = (outcome, left) ∧
        KeepsTo (planOf cache.naming dialect) types
          ((createTables dialect types cache).exchanges environment state) outcome ∧
        left.naming = cache.naming ∧ left.IsFaithfulTo types ∧
        ∀ (Other : Type) (again : Environment Other) (other : Other),
          KeepsTo (planOf cache.naming dialect) types
            ((createTables dialect types left).exchanges again other)
            ((createTables dialect types left).run again other).1.1 := by
  have among : ∀ type ∈ types, type ∈ types := fun _ member => member
  obtain ⟨ending, naming, still⟩ := ending_of_runs faithful among
    (Program.runs_exchanges environment (createTables dialect types cache) state)
  refine ⟨_, _, rfl, ending.keepsTo, naming, still, fun Other again other => ?_⟩
  rw [← naming]
  exact (ending_of_runs still among (Program.runs_exchanges again _ other)).1.keepsTo

/-- A record type of ships. -/
def ship : RecordType where
  identity := 0
  name := "Ship"
  table := none
  fields := [⟨"id", .typed ⟨.integer .int64, false⟩, "primaryKey;autoIncrement"⟩,
    ⟨"home", .typed ⟨.string, false⟩, "index"⟩]
  hooks := []
  answers := []

/-- A record type of those who sail them. -/
def sailor : RecordType where
  identity := 1
  name := "Sailor"
  table := none
  fields := [⟨"name", .typed ⟨.string, false⟩, "primaryKey"⟩]
  hooks := []
  answers := []

/-- An environment that takes two statements that write, and no more. -/
def narrowDisk : Environment Nat where
  execute _ written :=
    (if written < 2 then .ok ⟨0, none⟩ else .error (.database (.refused "disk full")), written + 1)
  fetchFirst _ written := (.ok none, written)
  fetchAll _ written := (.ok [], written)
  call call written := (⟨call.record, call.changes, .ok ()⟩, written)
  control _ written := (.ok (), written)
  report _ written := written

/-- The table of ships and its index fit on the disk, and the table of sailors does not. -/
theorem createTables_keepsTo_narrowDisk :
    SchemaCache.IsFaithfulTo { naming := .snakeCasePlural } [ship, sailor] ∧
      ∃ left,
        ((createTables .sqlite [ship, sailor] { naming := .snakeCasePlural }).run narrowDisk 0).1 =
          (.error (.execution "migrate" "Sailor" (.refused "disk full")), left) ∧
        KeepsTo (planOf .snakeCasePlural .sqlite) [ship, sailor]
          ((createTables .sqlite [ship, sailor] { naming := .snakeCasePlural }).exchanges
            narrowDisk 0)
          (.error (.execution "migrate" "Sailor" (.refused "disk full"))) := by
  have faithful : SchemaCache.IsFaithfulTo { naming := .snakeCasePlural } [ship, sailor] :=
    ⟨fun type _ => SchemaCache.isFaithful_empty _ type, by decide⟩
  obtain ⟨outcome, left, ran, keeps, -⟩ := createTables_keepsTo .sqlite faithful narrowDisk 0
  have full : ((createTables .sqlite [ship, sailor] { naming := .snakeCasePlural }).run
      narrowDisk 0).1.1 = .error (.execution "migrate" "Sailor" (.refused "disk full")) := by
    decide +kernel
  rw [ran] at full
  cases full
  exact ⟨faithful, left, ran, keeps⟩

end Migration

end RecordMapper
