/-
This file lets programs meet the world of a rehearsal. Statements take the answers written down,
and a hook does the things listed for it, in order, until one fails. What a hook does can lead to
further operations and so to further hooks. How deep that may go is bounded; a hook beyond the
bound does nothing.
-/

import RecordMapper.Query.Modify
import RecordMapper.Rehearsal.World

namespace RecordMapper.Rehearsal

/-! ### Operations within hooks -/

/-- Runs an operation that works on nothing of the caller's. -/
def perform {Result : Type} (environment : Environment World) (operation : Operation Unit Result)
    (world : World) : Except Error Result × World :=
  let ((outcome, _), after) := (operation ()).run environment world
  (outcome, after)

/-- A query on a record type, made in a world. -/
def World.query (world : World) (type : RecordType) : Query × World :=
  let (reports, query, kept) := Query.start world.database.dialect world.database.cache type
  (query, { world with
    database := { world.database with cache := kept }
    logs := world.logs ++ reports })

/-- What a hook has in hand: the record it was called on, and the changes pending. -/
structure Hand where
  record : Record
  changes : Option Changes

/-- The hand with the pending changes edited, if there are any pending. -/
def Hand.edit (hand : Hand) (edit : Changes → Changes) : Hand :=
  { hand with changes := hand.changes.map edit }

/-- Counts the records of the type at a place among the actors. -/
def countActors (environment : Environment World) (place : Nat) (world : World) :
    Except Error Unit × World :=
  match world.actors[place]? with
  | none => (.ok (), world)
  | some actor =>
    let (query, asked) := world.query actor.type
    match perform environment query.count asked with
    | (.ok number, after) => (.ok (), after.note (.counted number))
    | (.error error, after) => (.error error, after)

/-- Creates a record of the second actor's type. -/
def createSecond (environment : Environment World) (values : List Value) (world : World) :
    Except Error Unit × World :=
  match world.actors[1]? with
  | none => (.ok (), world)
  | some actor =>
    match actor.type.ofValues values with
    | .error error => (.error error, world)
    | .ok record =>
      let (query, asked) := world.query actor.type
      let ((outcome, _), after) := (query.create record).run environment asked
      (outcome.map fun _ => (), after)

/-- Loads the records of the second actor's type. -/
def scanSecond (environment : Environment World) (world : World) : Except Error Unit × World :=
  match world.actors[1]? with
  | none => (.ok (), world)
  | some actor =>
    let (query, asked) := world.query actor.type
    match perform environment query.scan asked with
    | (.ok records, after) => (.ok (), after.note (.scanned records))
    | (.error error, after) => (.error error, after)

/-! ### Hooks -/

/-- The value of the first field of a name. -/
def fieldValue (type : RecordType) (record : Record) (name : String) : Value :=
  match type.fields.findIdx? fun field => field.name == name with
  | some position => valueAt record position
  | none => .null

/-- Does one thing of a hook. -/
def act (environment : Environment World) (type : RecordType) (hand : Hand) (world : World) :
    HookAction → Except Error Unit × Hand × World
  | .set field value =>
    match type.setValue hand.record field value with
    | .ok record => (.ok (), { hand with record := record }, world)
    | .error error => (.error error, hand, world)
  | .fail text => (.error (.invalidArgument (.stated text)), hand, world)
  | .failConversion text => (.error (.conversion (.stated text)), hand, world)
  | .failNotFound record => (.error (.notFound record), hand, world)
  | .failIfDefault field text =>
    if (fieldValue type hand.record field).isDefault then
      (.error (.invalidArgument (.stated text)), hand, world)
    else (.ok (), hand, world)
  | .execute sql =>
    let (outcome, after) := perform environment (Operation.execute (Statement.ofText sql)) world
    (outcome.map fun _ => (), hand, after)
  | .count place =>
    let (outcome, after) := countActors environment place world
    (outcome, hand, after)
  | .create values =>
    let (outcome, after) := createSecond environment values world
    (outcome, hand, after)
  | .scan =>
    let (outcome, after) := scanSecond environment world
    (outcome, hand, after)
  | .change column value => (.ok (), hand.edit fun changes => changes.insert column value, world)
  | .unchange column => (.ok (), hand.edit fun changes => changes.erase column, world)

/-- Does the things of a hook in order, until one fails. -/
def actAll (environment : Environment World) (type : RecordType) (hand : Hand) (world : World) :
    List HookAction → Except Error Unit × Hand × World
  | [] => (.ok (), hand, world)
  | action :: rest =>
    match act environment type hand world action with
    | (.ok _, further, after) => actAll environment type further after rest
    | (.error error, further, after) => (.error error, further, after)

/-- The things that a hook of a record type does. -/
def World.actionsOf (world : World) (call : HookCall) : List HookAction :=
  match world.actors.find? fun actor => actor.type.identity == call.type.identity with
  | some actor => (actor.actions.lookup call.hook).getD []
  | none => []

/-- Calls a hook. -/
def callHook (environment : Environment World) (call : HookCall) (world : World) :
    HookReturn × World :=
  let hand : Hand := ⟨call.record, call.changes⟩
  let noted := world.note (.called call)
  let (outcome, hand, after) := actAll environment call.type hand noted (world.actionsOf call)
  (⟨hand.record, hand.changes, outcome⟩, after)

/-! ### The environment -/

/-- The environment of a rehearsal, given what a call of a hook does. -/
def environmentWith (call : HookCall → World → HookReturn × World) : Environment World where
  execute statement world :=
    let (answer, after) := world.send statement
    (answer.map world.outcomeOf, after)
  fetchFirst statement world :=
    let (answer, after) := world.send statement
    (answer.map fun response => response.rows.head?, after)
  fetchAll statement world :=
    let (answer, after) := world.send statement
    (answer.map fun response => response.rows, after)
  call := call
  control step world := world.control step
  report entry world := world.log entry

/-- The environment of a rehearsal in which hooks may call each other so deep. -/
def environment : Nat → Environment World
  | 0 => environmentWith fun call world => (⟨call.record, call.changes, .ok ()⟩, world)
  | less + 1 => environmentWith (callHook (environment less))

/-- How deep hooks may call each other while so many answers are left. -/
def World.depth (world : World) : Nat :=
  world.responses.length + 16

end RecordMapper.Rehearsal
