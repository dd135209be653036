/-
This file runs a rehearsal step by step. A step is an operation on a record type, a raw statement,
a step of a transaction, a migration, or a look at the state. It brings the answers for its own
statements, and what it does not use is dropped. Its answer is a result or an error, the events
and log entries on the way, and the record or the list that it was given, as it left them.
-/

import RecordMapper.Migration.History
import RecordMapper.Migration.Run
import RecordMapper.Page.Basic
import RecordMapper.Rehearsal.Environment

namespace RecordMapper.Rehearsal

/-! ### Steps -/

/-- Where the record of a step comes from. -/
inductive RecordSource
  | values (values : List Value)
  /-- The record that an earlier step left. -/
  | step (number : Nat)

/-- Something that is collected in a query. -/
inductive QueryCall
  | filter (filter : Filter)
  | keys (entries : List (String × Operand))
  | record (values : List Value)
  | order (term : String)
  | limit (count : UInt64)
  | offset (count : UInt64)
  | page (page : Page)

/-- What is done with a history of migrations. -/
inductive HistoryCall
  | table
  | ensure
  | applied
  | note (identifier : String)
  | strike (identifier : String)
  | apply (identifier script : String)
  | revert (identifier script : String)

/-- What a step does. -/
inductive Deed
  | create (type : Nat) (record : RecordSource) (calls : List QueryCall)
  | updates (type : Nat) (record : RecordSource) (changes : Changes) (calls : List QueryCall)
  | delete (type : Nat) (record : RecordSource) (calls : List QueryCall)
  | findById (type : Nat) (key : Value) (calls : List QueryCall)
  | first (type : Nat) (calls : List QueryCall)
  | scan (type : Nat) (calls : List QueryCall)
  | find (type : Nat) (record : Option RecordSource) (calls : List QueryCall)
  | count (type : Nat) (calls : List QueryCall)
  | paginate (type : Nat) (page : Page) (calls : List QueryCall)
  | schema (type : Nat) (calls : List QueryCall)
  | setValue (type : Nat) (record : RecordSource) (field : String) (value : Value)
    (calls : List QueryCall)
  | cached
  | parse (type : Nat)
  | execute (statement : Statement)
  | fetchFirst (statement : Statement)
  | fetchAll (statement : Statement)
  | begin
  | commit
  | rollback
  | drop
  | createTable (type : Nat)
  | migrate (types : List Nat)
  | history (table : String) (call : HistoryCall)
  | shown

/-- A step with the answers to its statements. -/
structure Step where
  deed : Deed
  responses : List Response

/-! ### Answers -/

/-- What a step that succeeds has to show. -/
inductive Product
  | nothing
  | outcome (outcome : Outcome)
  | record (record : Record)
  | records (records : List Record)
  | number (number : Int64)
  | size (size : Nat)
  | flag (flag : Bool)
  | text (text : String)
  | texts (texts : List String)
  | page (content : PageContent)
  | model (model : Option Model)
  | parsed (name : String) (isSeen : Bool)
  | state (database : String) (transaction : Option String) (dialect naming : String)

/-- The answer of a step. -/
structure Answer where
  result : Except Error Product
  /-- The record of the step as it was left, once there was one. -/
  record : Option Record := none
  /-- The list of the step as it was left. -/
  found : Option (List Record) := none

/-! ### Running operations -/

/-- Runs an operation on a value of the caller. -/
def World.operate {Held Result : Type} (world : World) (operation : Operation Held Result)
    (held : Held) : Except Error Result × Held × World :=
  let ((outcome, after), later) := (operation held).run (environment world.depth) world
  (outcome, after, later)

/-- A query with one more thing collected. -/
def QueryCall.addTo (query : Query) : QueryCall → Except Error Query
  | .filter condition => .ok (query.filter condition)
  | .keys entries => .ok (query.whereKeys entries)
  | .record given => (query.type.ofValues given).map query.whereRecord
  | .order term => .ok (query.orderBy term)
  | .limit count => .ok (query.take count)
  | .offset count => .ok (query.skip count)
  | .page asked => .ok (asked.apply query)

/-- The answer of a step that fails before it has a record. -/
def Answer.failed (error : Error) : Answer :=
  { result := .error error }

/-- A step on the records of one type. -/
def World.withType (world : World) (place : Nat) (use : RecordType → Answer × World) :
    Answer × World :=
  match world.actors[place]? with
  | some actor => use actor.type
  | none => (.failed (.invalidArgument (.stated "no such model")), world)

/-- A step on a query of one type. The query is started first, so that the type is resolved even
where the step gets no further; then what is collected is collected in order. -/
def World.withQuery (world : World) (place : Nat) (calls : List QueryCall)
    (use : Query → World → Answer × World) : Answer × World :=
  world.withType place fun type =>
    let (query, asked) := world.query type
    match calls.foldlM QueryCall.addTo query with
    | .error error => (.failed error, asked)
    | .ok collected => use collected asked

/-- A step that reads by a query. -/
def World.reading {Result : Type} (world : World) (place : Nat) (calls : List QueryCall)
    (operation : Query → Operation Unit Result) (product : Result → Product) :
    Answer × World :=
  world.withQuery place calls fun query asked =>
    let (outcome, _, after) := asked.operate (operation query) ()
    ({ result := outcome.map product }, after)

/-- The record of a source, given the records that the earlier steps left. -/
def RecordSource.record (source : RecordSource) (earlier : List (Option Record))
    (type : RecordType) : Except Error Record :=
  match source with
  | .values given => type.ofValues given
  | .step earlierStep => type.ofValues ((earlier[earlierStep]?.join).getD [])

/-- A step on a query and a record, which is made once the query is complete. -/
def World.withRecord (world : World) (earlier : List (Option Record)) (place : Nat)
    (source : RecordSource) (calls : List QueryCall)
    (use : Query → Record → World → Answer × World) : Answer × World :=
  world.withQuery place calls fun query asked =>
    match source.record earlier query.type with
    | .error error => (.failed error, asked)
    | .ok record => use query record asked

/-- A step that saves a record by a query. -/
def World.saving (world : World) (earlier : List (Option Record)) (place : Nat)
    (source : RecordSource) (calls : List QueryCall)
    (operation : Query → Operation Record Outcome) : Answer × World :=
  world.withRecord earlier place source calls fun query record asked =>
    let (outcome, left, after) := asked.operate (operation query) record
    ({ result := outcome.map .outcome, record := some left }, after)

/-- A step that sets a field of a record. -/
def World.setting (world : World) (earlier : List (Option Record)) (place : Nat)
    (source : RecordSource) (calls : List QueryCall) (field : String) (value : Value) :
    Answer × World :=
  world.withRecord earlier place source calls fun query record asked =>
    match query.type.setValue record field value with
    | .ok changed => ({ result := .ok .nothing, record := some changed }, asked)
    | .error error => ({ result := .error error, record := some record }, asked)

/-- A step that searches into a list of the caller's. -/
def World.finding (world : World) (earlier : List (Option Record)) (place : Nat)
    (source : Option RecordSource) (calls : List QueryCall) : Answer × World :=
  world.withQuery place calls fun query asked =>
    match source.mapM fun given => given.record earlier query.type with
    | .error error => (.failed error, asked)
    | .ok given =>
      let (outcome, left, after) := asked.operate query.find given.toList
      ({ result := outcome.map fun _ => .nothing, found := some left }, after)

/-- A step that resolves record types, from the models that are kept. -/
def World.migrating (world : World) (operation : Operation SchemaCache Unit) : Answer × World :=
  let (outcome, kept, after) := world.operate operation world.database.cache
  ({ result := outcome.map fun _ => .nothing },
    { after with database := { after.database with cache := kept } })

/-- A step that uses the connection alone. -/
def World.plain {Result : Type} (world : World) (operation : Operation Unit Result)
    (product : Result → Product) : Answer × World :=
  let (outcome, _, after) := world.operate operation ()
  ({ result := outcome.map product }, after)

/-- A step that opens a transaction or ends the one that is open. -/
def World.controlling (world : World) (control : Control) : Answer × World :=
  let (answer, after) := world.plain (Operation.control control) fun _ => .nothing
  match control, answer.result with
  | .begin, .error _ => (answer, after)
  | .begin, .ok _ => (answer, { after with inTransaction := true })
  | _, _ => (answer, { after with inTransaction := false })

/-- A step on a history of migrations. Its script is read before anything is sent. -/
def World.remembering (world : World) (table : String) (call : HistoryCall) : Answer × World :=
  let history : Migration.History := ⟨world.database.dialect, table⟩
  let withScript (source : String) (use : Migration.Script → Answer × World) : Answer × World :=
    match Migration.Script.parse source with
    | .error fault => (.failed (.invalidArgument fault), world)
    | .ok script => use script
  match call with
  | .table => ({ result := .ok (.text table) }, world)
  | .ensure => world.plain history.ensure fun _ => .nothing
  | .applied => world.plain history.applied .texts
  | .note identifier => world.plain (history.note identifier) fun _ => .nothing
  | .strike identifier => world.plain (history.strike identifier) fun _ => .nothing
  | .apply identifier source =>
    withScript source fun script => world.plain (history.apply identifier script) .flag
  | .revert identifier source =>
    withScript source fun script => world.plain (history.revert identifier script) .flag

/-- A step that resolves a record type and tells whether that was asked for before. -/
def World.parsing (world : World) (place : Nat) : Answer × World :=
  world.withType place fun type =>
    let (reports, outcome, kept) := world.database.cache.model type
    let after := { world with
      database := { world.database with cache := kept }
      logs := world.logs ++ reports }
    match outcome with
    | .error error => (.failed error, after)
    | .ok model =>
      ({ result := .ok (.parsed model.name (world.parsed.contains type.identity)) },
        { after with parsed := type.identity :: world.parsed })

/-! ### Running steps -/

/-- Does what a step does, given the records that the earlier steps left. -/
def World.doDeed (world : World) (earlier : List (Option Record)) : Deed → Answer × World
  | .create type record calls => world.saving earlier type record calls Query.create
  | .updates type record changes calls =>
    world.saving earlier type record calls fun query => query.updates changes
  | .delete type record calls => world.saving earlier type record calls Query.delete
  | .findById type key calls => world.reading type calls (fun query => query.findById key) .record
  | .first type calls => world.reading type calls Query.first .record
  | .scan type calls => world.reading type calls Query.scan .records
  | .find type record calls => world.finding earlier type record calls
  | .count type calls => world.reading type calls Query.count .number
  | .paginate type page calls => world.reading type calls page.load .page
  | .schema type calls =>
    world.withQuery type calls fun query asked =>
      ({ result := .ok (.model query.model.toOption) }, asked)
  | .setValue type record field value calls =>
    world.setting earlier type record calls field value
  | .cached => ({ result := .ok (.size world.database.cache.size) }, world)
  | .parse type => world.parsing type
  | .execute statement => world.plain (Operation.execute statement) .outcome
  | .fetchFirst statement =>
    world.plain (Operation.fetchFirst statement) fun row => .flag row.isSome
  | .fetchAll statement =>
    world.plain (Operation.fetchAll statement) fun rows => .size rows.length
  | .begin => world.controlling .begin
  | .commit => world.controlling .commit
  | .rollback => world.controlling .rollback
  | .drop => world.controlling .abandon
  | .createTable type =>
    world.withType type fun found =>
      world.migrating (Migration.createTable world.database.dialect found)
  | .migrate types =>
    let found := types.filterMap fun place => (world.actors[place]?).map Actor.type
    world.migrating (Migration.createTables world.database.dialect found)
  | .history table call => world.remembering table call
  | .shown =>
    let database := world.database
    let transaction := if world.inTransaction then some database.shownTransaction else none
    let state :=
      Product.state database.shown transaction database.dialect.name database.cache.naming.shown
    ({ result := .ok state }, world)

/-- What is reported of a step. -/
structure Account where
  answer : Answer
  trace : List Event
  logs : List LogEntry

/-- Runs steps in order, given the records that the earlier ones left. -/
def World.runSteps (world : World) (earlier : List (Option Record)) : List Step → List Account
  | [] => []
  | step :: rest =>
    let ready := { world with responses := step.responses, trace := [], logs := [] }
    let (answer, after) := ready.doDeed earlier step.deed
    ⟨answer, after.trace, after.logs⟩ :: after.runSteps (earlier ++ [answer.record]) rest

/-- Runs a rehearsal from its beginning. -/
def World.rehearse (world : World) (steps : List Step) : List Account :=
  world.runSteps [] steps

end RecordMapper.Rehearsal
