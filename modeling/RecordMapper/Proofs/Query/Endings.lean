/-
This file says how uses of a query end: with which error, if any, and how they leave the records
that the caller has handed over. An operation whose query cannot be prepared ends before anything
is asked of the environment, so that neither a database nor a hook nor the caller's record is
touched.
-/

import RecordMapper.Proofs.Outcome
import RecordMapper.Proofs.Query.Plans

namespace RecordMapper

open Operation

namespace Query

section

variable {State : Type} (environment : Environment State) (state : State) (query : Query)

/-- The error with which a use ends in an environment, if it fails. -/
def Use.error? : Use → Option Error
  | .create record => Outcome.errorOf ((query.create record).run environment state).1.1
  | .findById key =>
    Outcome.errorOf (((query.findById key : Operation Unit Record) ()).run environment state).1.1
  | .first => Outcome.errorOf (((query.first : Operation Unit Record) ()).run environment state).1.1
  | .find records => Outcome.errorOf ((query.find records).run environment state).1.1
  | .scan => Outcome.errorOf (((query.scan : Operation Unit _) ()).run environment state).1.1
  | .count => Outcome.errorOf (((query.count : Operation Unit _) ()).run environment state).1.1
  | .updates record changes =>
    Outcome.errorOf ((query.updates changes record).run environment state).1.1
  | .delete record => Outcome.errorOf ((query.delete record).run environment state).1.1
  | .paginate page =>
    Outcome.errorOf (((page.load query : Operation Unit _) ()).run environment state).1.1

/-- The records of the caller as a use leaves them: the one that is saved, or those that are found
in a list of the caller's. -/
def Use.left : Use → List Record
  | .create record => [((query.create record).run environment state).1.2]
  | .find records => ((query.find records).run environment state).1.2
  | .updates record changes => [((query.updates changes record).run environment state).1.2]
  | .delete record => [((query.delete record).run environment state).1.2]
  | .findById _ | .first | .scan | .count | .paginate _ => []

end

/-- The records of the caller as they are before a use has done anything: a record to be saved is
as it was given, and a list to be filled is empty, for it is emptied first. -/
def Use.untouched : Use → List Record
  | .create record | .updates record _ | .delete record => [record]
  | .find _ | .findById _ | .first | .scan | .count | .paginate _ => []

variable {query : Query} {error : Error}

/-- What follows a preparation that fails does not happen. -/
theorem prepare_bind_of_error {Held Result : Type} (refused : query.prepare = .error error)
    (next : Model → Operation Held Result) : (ofExcept query.prepare >>= next) = fail error := by
  rw [refused]
  rfl

/-- A use of a query that cannot be prepared ends with the error of the preparation. It asks
nothing of the environment and leaves the caller's record alone. -/
theorem Use.ends_of_unprepared (refused : query.prepare = .error error) (use : Use)
    {State : Type} (environment : Environment State) (state : State) :
    use.error? environment state query = some error ∧
      use.exchanges environment state query = [] ∧
      use.left environment state query = use.untouched := by
  have finds : query.find = fun _ => .done (.error error, []) := by
    funext records
    exact congrFun (prepare_bind_of_error refused _) []
  have counts : (query.count : Operation Unit Int64) = fail error :=
    prepare_bind_of_error refused _
  cases use with
  | create record =>
    have fails : query.create = fail error := prepare_bind_of_error refused _
    simp only [error?, exchanges, left, fails]
    exact ⟨rfl, rfl, rfl⟩
  | findById key =>
    have fails : (query.findById key : Operation Unit Record) = fail error :=
      prepare_bind_of_error refused _
    simp only [error?, exchanges, left, fails]
    exact ⟨rfl, rfl, rfl⟩
  | first =>
    have fails : (query.first : Operation Unit Record) = fail error :=
      prepare_bind_of_error refused _
    simp only [error?, exchanges, left, fails]
    exact ⟨rfl, rfl, rfl⟩
  | find records =>
    simp only [error?, exchanges, left, finds]
    exact ⟨rfl, rfl, rfl⟩
  | scan =>
    have fails : (query.scan : Operation Unit (List Record)) = fail error := by
      rw [Query.scan, finds]
      rfl
    simp only [error?, exchanges, left, fails]
    exact ⟨rfl, rfl, rfl⟩
  | count =>
    simp only [error?, exchanges, left, counts]
    exact ⟨rfl, rfl, rfl⟩
  | updates record changes =>
    have fails : query.updates changes = fail error := prepare_bind_of_error refused _
    simp only [error?, exchanges, left, fails]
    exact ⟨rfl, rfl, rfl⟩
  | delete record =>
    have fails : query.delete = fail error := prepare_bind_of_error refused _
    simp only [error?, exchanges, left, fails]
    exact ⟨rfl, rfl, rfl⟩
  | paginate page =>
    simp only [error?, exchanges, left, Page.load, counts]
    exact ⟨rfl, rfl, rfl⟩

end Query

end RecordMapper
