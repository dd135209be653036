/-
This file says how a change that succeeds leaves the record. If no row has changed, the record is as
it was. Otherwise the values that the statement sets have been put at the places of their fields. No
two fields have a place in common, so where no two entries of the changes name the same field, every
field that is named shows its new value, and keys, fields that are not named and places that no
field of the model has are as they were.
-/

import RecordMapper.Proofs.Query.HalfDone
import RecordMapper.Proofs.Query.Settings
import RecordMapper.Proofs.Record.Placing

namespace RecordMapper

open Operation Query

variable {type : RecordType} {model : Model} {entries : List (String × Value)}
  {record left : Record} {assigned : List Assignment} {exchanges : List Exchange}

/-! ### Writing to the record -/

/-- If what is stored for each assignment is its value, at the place of its field, writing all of
them puts each value at the place of its field. -/
theorem placeValues_of_runs_writeAssignments
    (stores : ∀ each ∈ assigned, ∀ record written,
      type.setValue record each.1.name each.2 = .ok written →
        written = record.set each.1.position each.2)
    (runs : Runs (writeAssignments type assigned) record exchanges (.ok ()) left) :
    left = placeValues record assigned := by
  induction assigned generalizing record exchanges with
  | nil => exact (runs_pure.mp runs).2.2
  | cons first rest inductionHypothesis =>
    rcases runs_bind.mp runs with ⟨error, -, equal⟩ |
      ⟨opening, _, middle, closing, rfl, overwritten, later⟩
    · cases equal
    obtain ⟨-, ⟨_, -, equal, -⟩ | ⟨stored, -⟩⟩ := runs_overwrite.mp overwritten
    · cases equal
    obtain rfl := stores first List.mem_cons_self record middle stored
    exact inductionHypothesis (fun each member => stores each (List.mem_cons_of_mem _ member)) later

/-- The places of a model's fields are distinct. -/
theorem RecordType.ResolvesTo.nodup_positions (resolves : type.ResolvesTo model) :
    (model.fields.map Field.position).Nodup :=
  resolves.positions.imp Nat.ne_of_lt

/-! ### Changed records -/

/-- Entries of changes bring a record to another one. -/
structure Brings (type : RecordType) (model : Model) (entries : List (String × Value))
    (record left : Record) : Prop where
  length : left.length = record.length
  /-- A field that an entry names, and that is no key, has the value of the entry, brought to the
  kind of the field; the field's type takes that value as it is. -/
  named : ∀ entry ∈ entries, ∀ field, model.resolve? entry.1 = some field →
    field.isPrimaryKey = false → ∃ columnType operand,
      type.typeAt? field.position = some columnType ∧
      coerceOperand field.kind entry.2 = .ok operand ∧
      columnType.convert operand = .ok operand ∧
      left[field.position]? = some operand
  keys : ∀ key ∈ model.primaryKeys, left[key.position]? = record[key.position]?
  unnamed : ∀ field ∈ model.fields, (∀ entry ∈ entries, model.resolve? entry.1 ≠ some field) →
    left[field.position]? = record[field.position]?
  /-- A place that no field of the model has is that of a field which is left out. -/
  leftOut : ∀ place, (∀ field ∈ model.fields, field.position ≠ place) →
    left[place]? = record[place]?

/-- A field of the model that nothing is assigned to is as it was. -/
theorem getElem?_of_spared (resolves : type.ResolvesTo model)
    (assigns : List.Forall₂ Assigns (settable model entries) assigned) {field : Field}
    (member : field ∈ model.fields) (spared : ∀ each ∈ assigned, each.1 ≠ field) :
    (placeValues record assigned)[field.position]? = record[field.position]? := by
  refine getElem?_placeValues fun each listed same => spared each listed ?_
  exact List.inj_on_of_nodup_map resolves.nodup_positions (mem_of_assigns assigns each listed)
    member same

/-- Assigned values that are held and put at the places of their fields bring the record to what the
changes ask for, if no two entries name the same field. -/
theorem brings_of_placeValues (resolves : type.ResolvesTo model) (supported : type.IsSupported)
    (complete : record.length = type.fields.length) (apart : NamesApart model entries)
    (assigns : List.Forall₂ Assigns (settable model entries) assigned)
    (held : ∀ each ∈ assigned, IsHeld type each) :
    Brings type model entries record (placeValues record assigned) := by
  refine
    { length := length_placeValues
      named := fun entry listed field resolved notKey => ?_
      keys := fun key member => ?_
      unnamed := fun field member unnamed => ?_
      leftOut := fun place vacant => ?_ }
  · have places : (assigned.map fun each => each.1.position).Nodup := by
      rw [marks_of_assigns Field.position assigns]
      exact (nodup_settable_iff resolves.nodup_positions).mpr apart
    have settable : (field, entry.2) ∈ settable model entries :=
      mem_settable_iff.mpr ⟨entry, listed, resolved, notKey, rfl⟩
    obtain ⟨⟨other, operand⟩, member, same, comes⟩ :=
      Outcome.exists_of_forall₂ assigns.flip settable
    obtain rfl : other = field := same
    obtain ⟨columnType, typed, kind⟩ := supported.typeAt? resolves (Model.mem_of_resolve? resolved)
    have converted := (ColumnType.convert_eq_ok (fits_of_coerceOperand kind comes)).mpr
      ⟨held _ member columnType typed, rfl⟩
    obtain ⟨declared, found, -⟩ := RecordType.typeAt?_eq_some.mp typed
    obtain ⟨inside, -⟩ := List.getElem?_eq_some_iff.mp found
    exact ⟨columnType, operand, typed, comes, converted,
      getElem?_placeValues_of_nodup places member (complete ▸ inside)⟩
  · rw [resolves.isAccepted.isFiled.primaryKeys_eq] at member
    obtain ⟨member, isKey⟩ := List.mem_filter.mp member
    refine getElem?_of_spared resolves assigns member fun each listed same => ?_
    obtain ⟨-, -, -, notKey⟩ := exists_entry_of_assigns assigns listed
    rw [same, isKey] at notKey
    cases notKey
  · refine getElem?_of_spared resolves assigns member fun each listed same => ?_
    obtain ⟨entry, entryListed, resolved, -⟩ := exists_entry_of_assigns assigns listed
    exact unnamed entry entryListed (same ▸ resolved)
  · exact getElem?_placeValues fun each listed => vacant each.1 (mem_of_assigns assigns each listed)

/-! ### Changes that succeed -/

namespace Query

/-- A change of a record type without hooks that succeeds has sent one statement, which sets the
fields that the changes name, keys apart, in the order of the changes. If the database reports no
changed row the record is as it was, and otherwise it shows the very values that were sent. -/
theorem updates_brings (query : Query) (resolved : query.IsResolved)
    (supported : query.type.IsSupported) (hookless : query.type.hooks = []) (record : Record)
    (complete : record.length = query.type.fields.length) (changes : Changes)
    (apart : ∀ model, query.model = .ok model → NamesApart model changes.entries) {State : Type}
    (environment : Environment State) (state : State) {outcome : Outcome}
    (succeeds : ((query.updates changes record).run environment state).1.1 = .ok outcome) :
    ∃ model assigned statement, query.model = .ok model ∧
      statements ((query.updates changes record).exchanges environment state) = [statement] ∧
      .executed statement (.ok outcome) ∈
        (query.updates changes record).exchanges environment state ∧
      IsChange query model assigned statement ∧
      List.Forall₂ Assigns (settable model changes.entries) assigned ∧
      (outcome.rowsAffected = 0 →
        ((query.updates changes record).run environment state).1.2 = record) ∧
      (0 < outcome.rowsAffected → Brings query.type model changes.entries record
        ((query.updates changes record).run environment state).1.2) := by
  have undeclared (model : Model) (prepared : query.prepare = .ok model) : model.hooks = [] :=
    (resolved model (model_of_prepare prepared)).maps.2.1.trans hookless
  have runs := Program.runs_exchanges environment (query.updates changes record) state
  generalize (query.updates changes record).exchanges environment state = exchanges at runs ⊢
  generalize ((query.updates changes record).run environment state).1 = ended at runs succeeds ⊢
  obtain ⟨answer, left⟩ := ended
  obtain rfl : answer = .ok outcome := succeeds
  rcases runs_updates_of_undeclared undeclared runs with ⟨⟨-, error, failed⟩, -⟩ |
    ⟨model, keys, assigned, statement, reports, sending, prepared, pinned, assigns, built, rfl,
      silent, sent⟩
  · cases failed
  have found := model_of_prepare prepared
  have change := isChange_of_changeFilters pinned built
  rcases runs_sendChange sent with ⟨error, -, failed, -⟩ |
    ⟨reported, writing, rfl, ⟨unchanged, rfl, ended, rfl⟩ | ⟨changed, written, wrote, ended⟩⟩
  · cases failed
  · cases ended
    refine ⟨model, assigned, statement, found, ?_, ?_, change, assigns, fun _ => rfl,
      fun changed => absurd changed unchanged⟩
    · rw [statements_append, silent, statements_executed, List.nil_append]
    · exact List.mem_append_right _ List.mem_cons_self
  · cases written with
    | error error => cases ended
    | ok done =>
      cases ended
      have resolves := resolved model found
      have stores := setValue_eq_ok_iff resolves supported assigns
      have held := (writeAssignments_succeeds_iff (exists_setValue_iff resolves supported assigns)
        wrote).mp rfl
      have placed := placeValues_of_runs_writeAssignments
        (fun each member record written stored =>
          ((stores each member record written).mp stored).2) wrote
      refine ⟨model, assigned, statement, found, ?_, ?_, change, assigns,
        fun unchanged => absurd changed (by simp [unchanged]), fun _ => ?_⟩
      · have quiet : statements writing = [] := isSilent_writeAssignments _ _ _ _ _ _ wrote
        rw [statements_append, silent, List.nil_append]
        exact congrArg (statement :: ·) quiet
      · exact List.mem_append_right _ List.mem_cons_self
      · rw [placed]
        exact brings_of_placeValues resolves supported complete (apart model found) assigns held

/-! ### Changes of parcels -/

/-- A record type in which each of two fields is mapped to a column that is called like the other,
with a field between them that is left out. -/
def parcel : RecordType where
  identity := 0
  name := "Parcel"
  table := none
  fields := [⟨"id", .typed ⟨.integer .int64, false⟩, "primaryKey"⟩,
    ⟨"sender", .typed ⟨.string, true⟩, "column:recipient"⟩, ⟨"label", .keptOut "Label", "-"⟩,
    ⟨"recipient", .typed ⟨.string, false⟩, "column:sender"⟩,
    ⟨"grams", .typed ⟨.integer .uint16, false⟩, ""⟩]
  hooks := []
  answers := []

/-- The query on all parcels. -/
def parcels : Query where
  dialect := .sqlite
  type := parcel
  model := (Schema.resolve .snakeCasePlural parcel.descriptor).2

theorem parcel_isSupported : parcel.IsSupported where
  names := by decide
  storage := by
    intro field member
    simp only [parcel, List.mem_cons, List.not_mem_nil, or_false] at member
    rcases member with rfl | rfl | rfl | rfl | rfl
    · exact .inr ⟨by decide, _, rfl⟩
    · exact .inr ⟨by decide, _, rfl⟩
    · exact .inl ⟨by decide, _, rfl⟩
    · exact .inr ⟨by decide, _, rfl⟩
    · exact .inr ⟨by decide, _, rfl⟩

/-- A parcel from Ada to Bea. -/
def fromAda : Record :=
  [.bigInt 1, .text "Ada", .null, .text "Bea", .int 250]

/-- Changes of a parcel's weight and of the column that is called like its recipient. -/
def reweighed : Changes :=
  ⟨[("grams", .text "65535"), ("id", .bigInt 2), ("recipient", .null)]⟩

/-- The names of the changes are apart: a column goes before a field of the same name. -/
theorem reweighed_namesApart (model : Model) (found : parcels.model = .ok model) :
    NamesApart model reweighed.entries := by
  have accepted : model.IsAccepted := ⟨.snakeCasePlural, parcel.descriptor, found⟩
  have looked : (parcels.model.toOption.map fun model =>
      (settable model reweighed.entries).map fun given => given.1.column) =
        some ["grams", "recipient"] := by decide +kernel
  rw [found] at looked
  have columns : ((settable model reweighed.entries).map fun given => given.1.column) =
      ["grams", "recipient"] := Option.some.inj looked
  rw [← nodup_settable_iff accepted.columns_nodup, columns]
  decide

/-- The column that is called like the recipient is that of the sender, who is forgotten. -/
theorem updates_brings_reweighed :
    ((parcels.updates reweighed fromAda).run obliging ()).1 =
        (.ok ⟨1, none⟩, [.bigInt 1, .null, .null, .text "Bea", .int 65535]) ∧
      statements ((parcels.updates reweighed fromAda).exchanges obliging ()) =
        [⟨"UPDATE \"parcels\" SET \"grams\" = ?, \"recipient\" = ? WHERE \"id\" = ?",
          [(.int 65535, .int), (.null, .text), (.bigInt 1, .bigInt)]⟩] ∧
      ∃ model, parcels.model = .ok model ∧ Brings parcel model reweighed.entries fromAda
        [.bigInt 1, .null, .null, .text "Bea", .int 65535] := by
  have ran : ((parcels.updates reweighed fromAda).run obliging ()).1 =
      (.ok ⟨1, none⟩, [.bigInt 1, .null, .null, .text "Bea", .int 65535]) := by decide +kernel
  refine ⟨ran, by decide +kernel, ?_⟩
  obtain ⟨model, assigned, statement, found, -, -, -, -, -, brings⟩ :=
    parcels.updates_brings (fun _ same => ⟨.snakeCasePlural, same⟩) parcel_isSupported rfl fromAda
      rfl reweighed reweighed_namesApart obliging () (congrArg Prod.fst ran)
  rw [ran] at brings
  exact ⟨model, found, brings (by decide)⟩

end Query

end RecordMapper
