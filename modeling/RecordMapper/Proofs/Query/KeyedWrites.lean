/-
This file proves that no change and no deletion ever runs over a whole table. Whatever the hooks
do to the record and to the changes, a statement that is sent pins every key of the model to the
value that the record had when the operation was called; the filters of the query can only narrow
it further. Where a key is missing, or a value that would have to be pinned is absent or unset,
nothing is sent at all.
-/

import RecordMapper.Proofs.Filter.Carrying
import RecordMapper.Proofs.Query.Keys
import RecordMapper.Proofs.Query.Sending
import RecordMapper.Proofs.Schema.Accepted
import RecordMapper.Proofs.Value.Coercion

namespace RecordMapper

open Operation Query

/-! ### Pinned keys -/

/-- A condition pins a key to a record's value: it asks for equality of the key's column with the
value in the form of the key's kind, and that value is not absent. -/
def Pins (record : Record) (key : Field) (condition : Condition) : Prop :=
  ∃ value, (valueAt record key.position).coerce key.kind = .ok value ∧ value ≠ .null ∧
    condition = .compare .equal key.column value key.kind

/-- A condition is what a filter puts on the table of a model. -/
def Narrows (model : Model) (filter : Filter) (condition : Condition) : Prop :=
  filter.condition model = .ok condition

/-- A statement goes on, after what it begins with, under conditions that pin each key of the
model in order, of which there is at least one, and then under those of the query's filters. -/
def IsKeyed (query : Query) (model : Model) (record : Record) (beginning : List Fragment)
    (statement : Statement) : Prop :=
  ∃ pinned narrowed, model.primaryKeys ≠ [] ∧
    List.Forall₂ (Pins record) model.primaryKeys pinned ∧
    List.Forall₂ (Narrows model) query.filters narrowed ∧
    statement = Statement.ofFragments query.dialect
      (beginning ++ .text " WHERE " ::
        separated " AND " ((pinned ++ narrowed).map (Condition.fragments query.dialect)))

/-- A key of an accepted model pins itself: the filter that it makes of a record's value is about
its own column, and it is refused if the value is absent. -/
theorem pins_of_keyFilter {model : Model} (accepted : model.IsAccepted) {record : Record}
    {key : Field} (member : key ∈ model.primaryKeys) {condition : Condition}
    (narrows : Narrows model (keyFilter record key) condition) : Pins record key condition := by
  obtain ⟨field, found, carries⟩ := Filter.condition_eq_ok.mp narrows
  have known : field = key := by
    have resolved := accepted.resolve?_column (Model.mem_of_primaryKeys member)
    rw [keyFilter, Filter.key, resolved] at found
    exact (Option.some.inj found).symm
  subst known
  cases carries with
  | compare present comes => exact ⟨_, comes, Value.coerce_ne_null comes present, rfl⟩

/-- Where the filters of a record's keys and of a query can be carried over, the statement under
them is keyed. -/
theorem isKeyed_of_conditions {query : Query} {model : Model} (accepted : model.IsAccepted)
    {record : Record} {found : List Condition} (nonempty : model.primaryKeys ≠ [])
    (carried : conditions model
      (model.primaryKeys.map (keyFilter record) ++ query.filters) = .ok found)
    (beginning : List Fragment) :
    IsKeyed query model record beginning (Statement.ofFragments query.dialect
      (beginning ++ whereFragments query.dialect found)) := by
  obtain ⟨pinned, narrowed, rfl, keyed, filtered⟩ := Outcome.mapM_append_eq_ok.mp carried
  have narrows := List.forall₂_map_left_iff.mp (Outcome.mapM_eq_ok.mp keyed)
  have pins : List.Forall₂ (Pins record) model.primaryKeys pinned := by
    have members : ∀ key ∈ model.primaryKeys, key ∈ model.primaryKeys := fun _ member => member
    have both := (List.forall₂_and_left _ _).mpr ⟨members, narrows⟩
    exact both.imp fun key condition each => pins_of_keyFilter accepted each.1 each.2
  refine ⟨pinned, narrowed, nonempty, pins, Outcome.mapM_eq_ok.mp filtered, ?_⟩
  have nonemptyClause : (pinned ++ narrowed).isEmpty = false := by
    rw [List.isEmpty_eq_false_iff, Ne, List.append_eq_nil_iff]
    rintro ⟨rfl, -⟩
    exact nonempty (List.forall₂_nil_right_iff.mp pins)
  rw [whereFragments, nonemptyClause]
  rfl

/-- A key that is absent cannot be pinned, so a keyed statement has none. -/
theorem IsKeyed.not_isAbsent {query : Query} {model : Model} {record : Record}
    {beginning : List Fragment} {statement : Statement}
    (keyed : IsKeyed query model record beginning statement) :
    ∀ key ∈ model.primaryKeys, ¬ IsAbsent record key := by
  obtain ⟨pinned, -, -, pins, -⟩ := keyed
  refine ((List.forall₂_and_left _ _).mp (pins.imp fun key condition pin => ⟨?_, pin⟩)).1
  obtain ⟨value, coerced, present, -⟩ := pin
  rcases Value.coerce_eq_ok coerced with ⟨-, gone⟩ | ⟨given, -⟩
  · exact absurd gone present
  · exact given

/-! ### Runs of changes and deletions -/

/-- The fragments with which a change begins: the table and the assigned columns. -/
def changeBeginning (query : Query) (model : Model) (assigned : List Assignment) : List Fragment :=
  .text ("UPDATE " ++ query.dialect.quote model.table ++ " SET ") ::
    separated ", " (assigned.map fun (field, value) =>
      [.text (query.dialect.quote field.column ++ " = "), .argument (value, field.kind)])

/-- The fragments with which a deletion begins: the table. -/
def deletionBeginning (query : Query) (model : Model) : List Fragment :=
  [.text ("DELETE FROM " ++ query.dialect.quote model.table)]

section

variable {State : Type} (environment : Environment State) (state : State)

/-- In an environment the operation sends nothing of its own and fails. -/
def Refuses (operation : Operation Record Outcome) (record : Record) : Prop :=
  statements ((operation record).exchanges environment state) = [] ∧
    ∃ error, ((operation record).run environment state).1.1 = .error error

/-- In an environment the operation sends a single statement, which begins in the given way and is
keyed to the record. -/
def SendsKeyed (operation : Operation Record Outcome) (query : Query) (model : Model)
    (record : Record) (beginning : List Fragment) : Prop :=
  ∃ statement, statements ((operation record).exchanges environment state) = [statement] ∧
    IsKeyed query model record beginning statement

end

section

variable {State : Type} {environment : Environment State} {state : State} {query : Query}
  {record : Record}

theorem refuses_or_sendsKeyed_of_updates
    (accepted : ∀ model, query.model = .ok model → model.IsAccepted) (changes : Changes) :
    Refuses environment state (query.updates changes) record ∨
      ∃ model assigned, query.model = .ok model ∧
        (∃ key ∈ model.primaryKeys, ¬ IsUnset record key) ∧
        SendsKeyed environment state (query.updates changes) query model record
          (changeBeginning query model assigned) := by
  rcases runs_updates (Program.runs_exchanges environment _ state) with
    refused | ⟨model, keys, assigned, statement, prepared, pinned, -, written, sent⟩
  · exact .inl refused
  have found := model_of_prepare prepared
  obtain ⟨set, rfl⟩ := changeFilters_eq_ok.mp pinned
  obtain ⟨carried, filtered, rfl⟩ := Outcome.map_eq_ok.mp written
  have nonempty : model.primaryKeys ≠ [] := by
    obtain ⟨key, member, -⟩ := set
    exact List.ne_nil_of_mem member
  exact .inr ⟨model, assigned, found, set, _, sent,
    isKeyed_of_conditions (accepted model found) nonempty filtered
      (changeBeginning query model assigned)⟩

theorem refuses_or_sendsKeyed_of_delete
    (accepted : ∀ model, query.model = .ok model → model.IsAccepted) :
    Refuses environment state query.delete record ∨
      ∃ model, query.model = .ok model ∧ (∀ key ∈ model.primaryKeys, ¬ IsUnset record key) ∧
        SendsKeyed environment state query.delete query model record
          (deletionBeginning query model) := by
  rcases runs_delete (Program.runs_exchanges environment _ state) with
    refused | ⟨model, keys, statement, prepared, pinned, written, sent⟩
  · exact .inl refused
  have found := model_of_prepare prepared
  obtain ⟨nonempty, set, rfl⟩ := deleteFilters_eq_ok.mp pinned
  obtain ⟨carried, filtered, rfl⟩ := Outcome.map_eq_ok.mp written
  exact .inr ⟨model, found, set, _, sent,
    isKeyed_of_conditions (accepted model found) nonempty filtered
      (deletionBeginning query model)⟩

end

/-- No change and no deletion reaches beyond the row of its record. Each either fails without
sending anything, or sends one statement that pins all keys to the values that the record had when
the operation was called, some of them set for a change and all of them for a deletion. Without
keys, with keys that are unset, or with one that is absent nothing is sent. -/
theorem Query.writes_keyed (query : Query)
    (accepted : ∀ model, query.model = .ok model → model.IsAccepted) (record : Record)
    {State : Type} (environment : Environment State) (state : State) :
    (∀ changes, Refuses environment state (query.updates changes) record ∨
      ∃ model assigned, query.model = .ok model ∧
        (∃ key ∈ model.primaryKeys, ¬ IsUnset record key) ∧
        SendsKeyed environment state (query.updates changes) query model record
          (changeBeginning query model assigned)) ∧
    (Refuses environment state query.delete record ∨
      ∃ model, query.model = .ok model ∧ (∀ key ∈ model.primaryKeys, ¬ IsUnset record key) ∧
        SendsKeyed environment state query.delete query model record
          (deletionBeginning query model)) ∧
    ∀ model, query.model = .ok model →
      ((model.primaryKeys = [] ∨ (∀ key ∈ model.primaryKeys, IsUnset record key) ∨
          ∃ key ∈ model.primaryKeys, IsAbsent record key) →
        ∀ changes, Refuses environment state (query.updates changes) record) ∧
      ((model.primaryKeys = [] ∨ ∃ key ∈ model.primaryKeys, IsUnset record key) →
        Refuses environment state query.delete record) := by
  refine ⟨refuses_or_sendsKeyed_of_updates accepted, refuses_or_sendsKeyed_of_delete accepted,
    fun model found => ⟨fun unpinned changes => ?_, fun unpinned => ?_⟩⟩
  · rcases refuses_or_sendsKeyed_of_updates accepted changes with
      refused | ⟨other, assigned, same, ⟨key, member, set⟩, statement, -, keyed⟩
    · exact refused
    · obtain rfl : other = model := by simpa [found] using same.symm
      rcases unpinned with keyless | unset | ⟨each, eachMember, absent⟩
      · exact absurd member (by rw [keyless]; exact List.not_mem_nil)
      · exact absurd (unset key member) set
      · exact absurd absent (keyed.not_isAbsent each eachMember)
  · rcases refuses_or_sendsKeyed_of_delete accepted with
      refused | ⟨other, same, set, statement, -, pinned, narrowed, nonempty, -⟩
    · exact refused
    · obtain rfl : other = model := by simpa [found] using same.symm
      rcases unpinned with keyless | ⟨key, member, unset⟩
      · exact absurd keyless nonempty
      · exact absurd unset (set key member)

/-- A seat in the first row, which has the number zero, is still found by both its keys when it is
taken. One that is to be deleted needs a number. -/
theorem Query.writes_keyed_freeSeats :
    let reserve : Changes := ⟨[("guest", .text "reserved")]⟩
    let change : Statement :=
      ⟨"UPDATE \"seats\" SET \"guest\" = $1 WHERE \"row\" = $2 AND \"number\" = $3 " ++
        "AND \"guest\" IS NULL", [(.text "reserved", .text), (.int 1, .int), (.int 0, .int)]⟩
    let deletion : Statement :=
      ⟨"DELETE FROM \"seats\" WHERE \"row\" = $1 AND \"number\" = $2 AND \"guest\" IS NULL",
        [(.int 3, .int), (.int 7, .int)]⟩
    (∀ model, freeSeats.model = .ok model → model.IsAccepted) ∧
      statements ((freeSeats.updates reserve [.int 1, .int 0, .null]).exchanges .empty ()) =
        [change] ∧
      (∃ model assigned, freeSeats.model = .ok model ∧
        SendsKeyed .empty () (freeSeats.updates reserve) freeSeats model [.int 1, .int 0, .null]
          (changeBeginning freeSeats model assigned)) ∧
      statements ((freeSeats.delete [.int 3, .int 7, .null]).exchanges .empty ()) = [deletion] ∧
      ∃ model, freeSeats.model = .ok model ∧
        SendsKeyed .empty () freeSeats.delete freeSeats model [.int 3, .int 7, .null]
          (deletionBeginning freeSeats model) ∧
        Refuses .empty () freeSeats.delete [.int 1, .int 0, .null] := by
  intro reserve change deletion
  have accepted (model : Model) (found : freeSeats.model = .ok model) : model.IsAccepted :=
    ⟨.snakeCasePlural, seat.descriptor, found⟩
  have changed :
      statements ((freeSeats.updates reserve [.int 1, .int 0, .null]).exchanges .empty ()) =
        [change] := by decide +kernel
  have deleted :
      statements ((freeSeats.delete [.int 3, .int 7, .null]).exchanges .empty ()) =
        [deletion] := by decide +kernel
  obtain ⟨changes, -, unpinned⟩ := writes_keyed freeSeats accepted [.int 1, .int 0, .null] .empty ()
  refine ⟨accepted, changed, ?_, deleted, ?_⟩
  · rcases changes reserve with refused | ⟨model, assigned, found, -, keyed⟩
    · cases changed.symm.trans refused.1
    · exact ⟨model, assigned, found, keyed⟩
  · rcases (writes_keyed freeSeats accepted [.int 3, .int 7, .null] .empty ()).2.1 with
      refused | ⟨model, found, -, keyed⟩
    · cases deleted.symm.trans refused.1
    · have unnumbered : (freeSeats.model.toOption.any fun model => model.primaryKeys.any fun key =>
          (valueAt [.int 1, .int 0, .null] key.position).isDefault) = true := by decide +kernel
      rw [found] at unnumbered
      obtain ⟨key, member, unset⟩ := List.any_eq_true.mp unnumbered
      exact ⟨model, found, keyed, (unpinned model found).2 (.inr ⟨key, member, unset⟩)⟩

end RecordMapper
