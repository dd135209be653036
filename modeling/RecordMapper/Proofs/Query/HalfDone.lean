/-
This file says when a change is left half done: the row has been changed, the change still ends with
an error, and the record may show a part of it. Values are brought to the kinds of their fields
before the statement is sent, but they are written to the record only after it, and the types of
fields are narrower than their kinds. So a change is all or nothing exactly if every value that
passes the first test also passes the second one, which only absence and the numbers of four integer
types can fail to do.
-/

import RecordMapper.Dialect.Sqlite
import RecordMapper.Proofs.Query.Collecting
import RecordMapper.Proofs.Record.Overwriting

namespace RecordMapper

open Operation

/-! ### Statements that change rows -/

/-- Whether an exchange reports that a statement has changed rows. -/
def Exchange.changesRows : Exchange → Bool
  | .executed _ (.ok outcome) => 0 < outcome.rowsAffected
  | _ => false

/-- In a transcript some statement has changed rows. -/
def Landed (exchanges : List Exchange) : Prop :=
  exchanges.any Exchange.changesRows = true

instance (exchanges : List Exchange) : Decidable (Landed exchanges) :=
  inferInstanceAs (Decidable (_ = true))

theorem landed_append {opening closing : List Exchange} :
    Landed (opening ++ closing) ↔ Landed opening ∨ Landed closing := by
  unfold Landed
  rw [List.any_append, Bool.or_eq_true]

theorem landed_executed {statement : Statement} {outcome : Outcome} :
    Landed [.executed statement (.ok outcome)] ↔ 0 < outcome.rowsAffected := by
  unfold Landed
  rw [List.any_cons, List.any_nil, Bool.or_false]
  exact decide_eq_true_iff

theorem not_landed_executed {statement : Statement} {error : Error} :
    ¬ Landed [.executed statement (.error error)] :=
  Bool.false_ne_true

/-- Where nothing is sent, nothing lands. -/
theorem not_landed_of_silent {exchanges : List Exchange} (silent : statements exchanges = []) :
    ¬ Landed exchanges := by
  intro landed
  obtain ⟨exchange, member, changes⟩ := List.any_eq_true.mp landed
  have unsent := List.filterMap_eq_nil_iff.mp silent exchange member
  cases exchange with
  | executed statement answer => cases unsent
  | _ => cases changes

/-! ### Models without hooks -/

namespace Hook

variable {model : Model} (hook : Hook) (type : RecordType)

/-- A hook that the model does not declare leaves the changes as they are. -/
theorem beforeChanges_of_undeclared (undeclared : model.hooks = []) (changes : Changes) :
    hook.beforeChanges model type changes = Pure.pure changes := by
  unfold beforeChanges runsOn
  rw [undeclared]
  rfl

/-- A hook that the model does not declare leaves the record as it is. -/
theorem after_of_undeclared (undeclared : model.hooks = []) (changes : Option Changes) :
    hook.after model type changes = Pure.pure () := by
  unfold Hook.after afterOn runsOn
  rw [undeclared]
  rfl

end Hook

namespace Query

variable {query : Query} {model : Model} {record left : Record} {exchanges : List Exchange}
  {changes : Changes}

/-! ### Writing to the record -/

/-- Writing values to a record succeeds if the record type takes each of them. -/
theorem writeAssignments_succeeds_iff {type : RecordType} {takes : Assignment → Prop}
    {assigned : List Assignment}
    (decides : ∀ each ∈ assigned, ∀ record,
      (∃ written, type.setValue record each.1.name each.2 = .ok written) ↔ takes each)
    {outcome : Except Error Unit}
    (runs : Runs (writeAssignments type assigned) record exchanges outcome left) :
    outcome = .ok () ↔ ∀ each ∈ assigned, takes each := by
  induction assigned generalizing record exchanges with
  | nil =>
    obtain ⟨-, rfl, -⟩ := runs_pure.mp runs
    simp
  | cons first rest inductionHypothesis =>
    have decidesFirst := decides first List.mem_cons_self record
    rw [List.forall_mem_cons, ← decidesFirst]
    rcases runs_bind.mp runs with ⟨error, failed, rfl⟩ |
      ⟨opening, _, middle, closing, rfl, overwritten, later⟩
    · obtain ⟨-, ⟨_, refused, -⟩ | ⟨-, ended⟩⟩ := runs_overwrite.mp failed
      · simp [refused]
      · cases ended
    · obtain ⟨-, ⟨_, -, ended, -⟩ | ⟨taken, -⟩⟩ := runs_overwrite.mp overwritten
      · cases ended
      · rw [inductionHypothesis (fun each member => decides each (List.mem_cons_of_mem _ member))
          later]
        simp [taken]

/-! ### Changing -/

/-- What a change without hooks does with its statement: it sends it, and writes the assigned values
to the record if there was such a row. -/
def sendChange (type : RecordType) (assigned : List Assignment) (statement : Statement)
    (name : String) : Operation Record Outcome := do
  let outcome ← (Operation.execute statement).during "updates" name
  if 0 < outcome.rowsAffected then
    writeAssignments type assigned
  return outcome

/-- The statement of a change is sent once. The record is left alone unless a row has changed, and
is written to if one has; the change then ends as the writing does. -/
theorem runs_sendChange {type : RecordType} {assigned : List Assignment} {statement : Statement}
    {name : String} {outcome : Except Error Outcome}
    (runs : Runs (sendChange type assigned statement name) record exchanges outcome left) :
    (∃ error, exchanges = [.executed statement (.error error)] ∧
        outcome = .error (error.during "updates" name) ∧ left = record) ∨
      ∃ reported writing, exchanges = .executed statement (.ok reported) :: writing ∧
        ((¬ 0 < reported.rowsAffected ∧ writing = [] ∧ outcome = .ok reported ∧ left = record) ∨
          (0 < reported.rowsAffected ∧ ∃ written,
            Runs (writeAssignments type assigned) record writing written left ∧
              outcome = written.map fun _ => reported)) := by
  unfold sendChange at runs
  rcases runs_bind.mp runs with ⟨error, failed, rfl⟩ |
    ⟨asking, reported, middle, closing, rfl, answered, finished⟩
  · obtain ⟨answer, executed, equal⟩ := runs_during.mp failed
    obtain ⟨rfl, rfl⟩ := runs_execute.mp executed
    cases answer with
    | ok reported => cases equal
    | error inner =>
      cases equal
      exact .inl ⟨inner, rfl, rfl, rfl⟩
  obtain ⟨answer, executed, equal⟩ := runs_during.mp answered
  obtain ⟨rfl, rfl⟩ := runs_execute.mp executed
  cases answer with
  | error inner => cases equal
  | ok given =>
    cases equal
    refine .inr ⟨reported, closing, rfl, ?_⟩
    split at finished
    · rename_i changed
      refine .inr ⟨changed, ?_⟩
      rcases runs_bind.mp finished with ⟨error, failed, rfl⟩ |
        ⟨writing, _, written, rest, rfl, wrote, ended⟩
      · exact ⟨_, failed, rfl⟩
      · obtain ⟨rfl, rfl, rfl⟩ := runs_pure.mp ended
        rw [List.append_nil]
        exact ⟨_, wrote, rfl⟩
    · rename_i unchanged
      obtain ⟨rfl, rfl, rfl⟩ := runs_pure.mp finished
      exact .inl ⟨unchanged, rfl, rfl, rfl⟩

/-- Without hooks a change fails, sends nothing and leaves the record alone, or it sends, after
reports only, the statement that the keys of the record and the changes make. -/
theorem runs_updates_of_undeclared {outcome : Except Error Outcome}
    (undeclared : ∀ model, query.prepare = .ok model → model.hooks = [])
    (runs : Runs (query.updates changes) record exchanges outcome left) :
    (Declines exchanges outcome ∧ left = record) ∨
      ∃ model keys assigned statement reports sending, query.prepare = .ok model ∧
        changeFilters model record = .ok keys ∧
        List.Forall₂ Assigns (settable model changes.entries) assigned ∧
        updateStatement model query.dialect assigned (keys ++ query.filters) = .ok statement ∧
        exchanges = reports ++ sending ∧ statements reports = [] ∧
        Runs (sendChange query.type assigned statement model.name) record sending outcome left := by
  rcases runs_ofExcept_bind.mp runs with ⟨error, -, rfl, rfl, rfl⟩ | ⟨model, prepared, keyed⟩
  · exact .inl ⟨⟨rfl, error, rfl⟩, rfl⟩
  rcases runs_ofExcept_bind.mp (runs_held_bind.mp keyed) with
    ⟨error, -, rfl, rfl, rfl⟩ | ⟨keys, pinned, hooked⟩
  · exact .inl ⟨⟨rfl, error, rfl⟩, rfl⟩
  simp only [Hook.beforeChanges_of_undeclared _ _ (undeclared model prepared),
    Hook.after_of_undeclared _ _ (undeclared model prepared), Operation.pure_bind] at hooked
  rcases runs_bind.mp hooked with ⟨error, failed, rfl⟩ |
    ⟨reports, assigned, held, sending, rfl, assigning, built⟩
  · obtain ⟨reported, rfl, -⟩ := runs_assignments failed
    exact .inl ⟨⟨statements_of_reported reported, error, rfl⟩, rfl⟩
  obtain ⟨reported, rfl, assigns⟩ := runs_assignments assigning
  have silent := statements_of_reported reported
  split at built
  · rcases runs_bind.mp built with ⟨error, failed, rfl⟩ | ⟨_, _, _, _, rfl, failed, -⟩
    · obtain ⟨rfl, -, rfl⟩ := runs_fail.mp failed
      exact .inl ⟨⟨by rw [List.append_nil, silent], error, rfl⟩, rfl⟩
    · cases (runs_fail.mp failed).2.1
  rcases runs_ofExcept_bind.mp built with ⟨error, -, rfl, rfl, rfl⟩ | ⟨statement, written, sent⟩
  · exact .inl ⟨⟨by rw [List.append_nil, silent], error, rfl⟩, rfl⟩
  · exact .inr ⟨model, keys, assigned, statement, reports, sending, prepared, pinned,
      assigns assigned rfl, written, rfl, silent, sent⟩

/-- A change lands its statement and then writes what it assigns to the record; it ends as the
writing does. -/
def Lands (type : RecordType) (assigned : List Assignment) (record : Record)
    (exchanges : List Exchange) (outcome : Except Error Outcome) (left : Record) : Prop :=
  Landed exchanges ∧ ∃ reported writing written,
    Runs (writeAssignments type assigned) record writing written left ∧
      outcome = written.map fun _ => reported

/-- A statement that is sent for a change lands and the record is written to, or it does not and the
record is left alone. -/
theorem lands_of_runs_sendChange {type : RecordType} {assigned : List Assignment}
    {statement : Statement} {name : String} {outcome : Except Error Outcome}
    (runs : Runs (sendChange type assigned statement name) record exchanges outcome left) :
    (¬ Landed exchanges ∧ left = record) ∨ Lands type assigned record exchanges outcome left := by
  rcases runs_sendChange runs with ⟨error, rfl, -, rfl⟩ |
    ⟨reported, writing, rfl, ⟨unchanged, rfl, -, rfl⟩ | ⟨changed, written, wrote, rfl⟩⟩
  · exact .inl ⟨not_landed_executed, rfl⟩
  · exact .inl ⟨fun landed => unchanged (landed_executed.mp landed), rfl⟩
  · exact .inr ⟨landed_append.mpr (.inl (landed_executed.mpr changed)), reported, writing, written,
      wrote, rfl⟩

/-- Without hooks a change lands its statement and writes to the record, or it does neither. -/
theorem lands_of_runs_updates {outcome : Except Error Outcome}
    (undeclared : ∀ model, query.prepare = .ok model → model.hooks = [])
    (runs : Runs (query.updates changes) record exchanges outcome left) :
    (¬ Landed exchanges ∧ left = record) ∨ ∃ model assigned, query.prepare = .ok model ∧
      List.Forall₂ Assigns (settable model changes.entries) assigned ∧
        Lands query.type assigned record exchanges outcome left := by
  rcases runs_updates_of_undeclared undeclared runs with ⟨⟨silent, -⟩, rfl⟩ |
    ⟨model, -, assigned, statement, reports, sending, prepared, -, assigns, -, rfl, silent, sent⟩
  · exact .inl ⟨not_landed_of_silent silent, rfl⟩
  have quiet : ¬ Landed reports := not_landed_of_silent silent
  unfold Lands
  rw [landed_append, or_iff_right quiet]
  rcases lands_of_runs_sendChange sent with untouched | lands
  · exact .inl untouched
  · exact .inr ⟨model, assigned, prepared, assigns, lands⟩

/-! ### Values beyond their types -/

/-- The type at the place of an assignment's field holds the value that is assigned. -/
def IsHeld (type : RecordType) (assignment : Assignment) : Prop :=
  ∀ columnType, type.typeAt? assignment.1.position = some columnType →
    columnType.holds assignment.2 = true

/-- Some value that changes assign is of the kind of its field, or absent, but the type of the field
does not hold it. -/
def Overreaches (type : RecordType) (model : Model) (changes : Changes) : Prop :=
  ∃ given ∈ settable model changes.entries, ∃ operand,
    coerceOperand given.1.kind given.2 = .ok operand ∧
      ¬ IsHeld type (given.1, operand)

/-- Some value that changes assign is absence, for a field that is not optional, or a number that
the range of the narrow integer type of its field does not reach. -/
def ExceedsTypes (type : RecordType) (model : Model) (changes : Changes) : Prop :=
  ∃ given ∈ settable model changes.entries, ∃ operand columnType,
    coerceOperand given.1.kind given.2 = .ok operand ∧
      type.typeAt? given.1.position = some columnType ∧
      ((operand = .null ∧ columnType.isOptional = false) ∨
        ∃ narrow number, columnType.scalar = .integer narrow ∧ narrow.isNarrow = true ∧
          operand.asInteger = some number ∧
          (number.toInt < narrow.least ∨ narrow.greatest < number.toInt))

section

variable {type : RecordType} {assigned : List Assignment}

/-- Where values can be assigned at all, none overreaches if all of them are held. -/
theorem forall_isHeld_iff
    (assigns : List.Forall₂ Assigns (settable model changes.entries) assigned) :
    (∀ each ∈ assigned, IsHeld type each) ↔ ¬ Overreaches type model changes := by
  constructor
  · rintro held ⟨given, listed, operand, comes, unheld⟩
    obtain ⟨each, member, same, coerced⟩ := Outcome.exists_of_forall₂ assigns.flip listed
    rw [comes] at coerced
    cases coerced
    exact unheld (same ▸ held each member)
  · intro whole each member
    obtain ⟨given, listed, same, coerced⟩ := Outcome.exists_of_forall₂ assigns member
    by_contra unheld
    refine whole ⟨given, listed, each.2, coerced, ?_⟩
    rw [← same]
    exact unheld

/-- A value that has been brought to the kind of a type is absent or of the type's variant. -/
theorem fits_of_coerceOperand {field : Field} {columnType : ColumnType}
    (kind : field.kind = columnType.kind) {value operand : Value}
    (comes : coerceOperand field.kind value = .ok operand) :
    operand = .null ∨ columnType.kind.names operand = true := by
  rcases Value.coerce_eq_ok (coerceOperand_eq_ok.mp comes) with ⟨-, absent⟩ | ⟨-, -, named⟩
  · exact .inl absent
  · exact .inr (kind ▸ named)

/-- A supported record type stores what changes assign to one of its fields if the field's type
holds it, as it is and at the place of the field. -/
theorem setValue_eq_ok_iff (resolves : type.ResolvesTo model) (supported : type.IsSupported)
    (assigns : List.Forall₂ Assigns (settable model changes.entries) assigned) :
    ∀ each ∈ assigned, ∀ record written,
      type.setValue record each.1.name each.2 = .ok written ↔
        IsHeld type each ∧ written = record.set each.1.position each.2 := by
  intro each member record written
  obtain ⟨given, listed, same, coerced⟩ := Outcome.exists_of_forall₂ assigns member
  have known := (mem_of_settable listed).1
  rw [← same] at known coerced
  obtain ⟨columnType, typed, kind⟩ := supported.typeAt? resolves known
  rw [supported.setValue_eq_ok resolves known typed (fits_of_coerceOperand kind coerced)]
  unfold IsHeld
  rw [typed]
  simp

/-- A supported record type takes what changes assign to one of its fields if the field's type
holds it. -/
theorem exists_setValue_iff (resolves : type.ResolvesTo model) (supported : type.IsSupported)
    (assigns : List.Forall₂ Assigns (settable model changes.entries) assigned) :
    ∀ each ∈ assigned, ∀ record,
      (∃ written, type.setValue record each.1.name each.2 = .ok written) ↔
        IsHeld type each := by
  intro each member record
  simp only [setValue_eq_ok_iff resolves supported assigns each member, exists_and_left, exists_eq,
    and_true]

/-- Values overreach for two reasons only: absence is given to a field that is not optional, or a
number to a field of a narrow integer type that its range does not reach. -/
theorem overreaches_iff (resolves : type.ResolvesTo model) (supported : type.IsSupported) :
    Overreaches type model changes ↔ ExceedsTypes type model changes := by
  refine exists_congr fun given => and_congr_right fun listed => exists_congr fun operand => ?_
  obtain ⟨columnType, typed, kind⟩ := supported.typeAt? resolves (mem_of_settable listed).1
  simp only [IsHeld, typed, Option.some.injEq, forall_eq', Bool.not_eq_true]
  constructor
  · rintro ⟨comes, unheld⟩
    have fits := fits_of_coerceOperand kind comes
    exact ⟨columnType, comes, rfl, (ColumnType.holds_eq_false_iff fits).mp unheld⟩
  · rintro ⟨_, comes, rfl, reason⟩
    exact ⟨comes, (ColumnType.holds_eq_false_iff (fits_of_coerceOperand kind comes)).mpr reason⟩

end

/-- A change leaves half-done work exactly where its statement has landed and one of its values
overreaches. In every other case of a record type without hooks, a change that ends with an error
has left the record as it was, and none of its statements has changed a row. A value overreaches
exactly if it is absence for a field that is not optional or a number out of the range of a narrow
integer type. -/
theorem updates_whole_iff (query : Query) (resolved : query.IsResolved)
    (supported : query.type.IsSupported) (hookless : query.type.hooks = []) (record : Record)
    (changes : Changes) {State : Type} (environment : Environment State) (state : State) :
    ((∀ error, (Use.updates record changes).error? environment state query = some error →
        (Use.updates record changes).left environment state query =
            (Use.updates record changes).untouched ∧
          ¬ Landed ((Use.updates record changes).exchanges environment state query)) ↔
      (Landed ((Use.updates record changes).exchanges environment state query) →
        ∀ model, query.model = .ok model → ¬ Overreaches query.type model changes)) ∧
    ∀ model, query.model = .ok model →
      (Overreaches query.type model changes ↔ ExceedsTypes query.type model changes) := by
  refine ⟨?_, fun model found => overreaches_iff (resolved model found) supported⟩
  have undeclared (model : Model) (prepared : query.prepare = .ok model) : model.hooks = [] :=
    (resolved model (model_of_prepare prepared)).maps.2.1.trans hookless
  simp only [Use.error?, Use.left, Use.untouched, Use.exchanges, Outcome.errorOf_eq_some,
    List.cons.injEq, and_true]
  rcases lands_of_runs_updates undeclared
      (Program.runs_exchanges environment (query.updates changes record) state) with
    ⟨unlanded, untouched⟩ | ⟨model, assigned, prepared, assigns, landed, reported, writing, written,
      wrote, ended⟩
  · exact iff_of_true (fun _ _ => ⟨untouched, unlanded⟩) fun landed => absurd landed unlanded
  have found := model_of_prepare prepared
  have succeeds := writeAssignments_succeeds_iff
    (exists_setValue_iff (resolved model found) supported assigns) wrote
  rw [forall_isHeld_iff assigns] at succeeds
  rw [ended]
  constructor
  · intro whole _ other same
    obtain rfl : model = other := Except.ok.inj (found.symm.trans same)
    refine succeeds.mp ?_
    cases written with
    | ok _ => rfl
    | error error => exact absurd landed (whole error rfl).2
  · intro whole error failed
    rw [succeeds.mpr (whole landed model found)] at failed
    cases failed

/-! ### Changes of sensors -/

/-- A record type with a field of a narrow type. -/
def sensor : RecordType where
  identity := 0
  name := "Sensor"
  table := none
  fields := [⟨"id", .typed ⟨.integer .int64, false⟩, "primaryKey"⟩,
    ⟨"label", .typed ⟨.string, false⟩, ""⟩, ⟨"level", .typed ⟨.integer .uint8, false⟩, ""⟩]
  hooks := []
  answers := []

/-- The query on all sensors. -/
def sensors : Query where
  dialect := .sqlite
  type := sensor
  model := (Schema.resolve .snakeCasePlural sensor.descriptor).2

/-- A sensor in the attic that is moved to the cellar and set to a level. -/
def moved (level : Int16) : Use :=
  .updates [.bigInt 1, .text "attic", .smallInt 5]
    ⟨[("label", .text "cellar"), ("level", .smallInt level)]⟩

/-- An environment in which every statement that writes changes one row. -/
def obliging : Environment Unit :=
  { Environment.empty with execute := fun _ state => (.ok ⟨1, none⟩, state) }

/-- A level that 16 bits have room for and 8 bits have not leaves half-done work: the row has
changed, the change ends with an error, and the record shows the new place with the old level. -/
theorem moved_half_done :
    (moved 300).left obliging () sensors = [[.bigInt 1, .text "cellar", .smallInt 5]] ∧
      ¬ ∀ error, (moved 300).error? obliging () sensors = some error →
        (moved 300).left obliging () sensors = (moved 300).untouched ∧
          ¬ Landed ((moved 300).exchanges obliging () sensors) := by
  refine ⟨by decide +kernel, fun whole => ?_⟩
  have failed : (moved 300).error? obliging () sensors =
      some (.conversion (.inField "Sensor" "level" (.outOfRange 300 .uint8))) := by
    decide +kernel
  have landed : Landed ((moved 300).exchanges obliging () sensors) := by decide +kernel
  exact (whole _ failed).2 landed

theorem sensor_isSupported : sensor.IsSupported where
  names := by decide
  storage := by
    intro field member
    simp only [sensor, List.mem_cons, List.not_mem_nil, or_false] at member
    rcases member with rfl | rfl | rfl
    · exact .inr ⟨by decide, _, rfl⟩
    · exact .inr ⟨by decide, _, rfl⟩
    · exact .inr ⟨by decide, _, rfl⟩

/-- A level that 8 bits have room for lands and does not overreach. -/
theorem updates_whole_iff_moved :
    Landed ((moved 200).exchanges obliging () sensors) ∧
      ∃ model, sensors.model = .ok model ∧ ¬ Overreaches sensor model
        ⟨[("label", .text "cellar"), ("level", .smallInt 200)]⟩ := by
  have landed : Landed ((moved 200).exchanges obliging () sensors) := by decide +kernel
  have succeeds : (moved 200).error? obliging () sensors = none := by decide +kernel
  have resolves : sensors.model.toOption.isSome = true := by decide +kernel
  obtain ⟨model, found⟩ := Option.isSome_iff_exists.mp resolves
  rw [Outcome.toOption_eq_some] at found
  refine ⟨landed, model, found, (updates_whole_iff sensors (fun _ same => ⟨.snakeCasePlural, same⟩)
    sensor_isSupported rfl _ _ obliging ()).1.mp (fun error failed => ?_) landed model found⟩
  cases succeeds.symm.trans failed

end Query

end RecordMapper
