/-
This file says which model a record type resolves to and at which places of a record the values of
its fields stand. The description of the type is gone through once: a field that its tag leaves out
uses up a place and nothing else, and every other field becomes the next field of the model and
remembers its place. So places grow along a model, none is taken twice, and each leads back to the
field of the record type that the model's field was made of. A model that is kept for a type is
always the one that the type resolves to.
-/

import RecordMapper.Proofs.Schema.Accepted
import RecordMapper.Schema.Cache

namespace RecordMapper

namespace Schema

/-! ### Mapped fields -/

/-- The described fields that are not left out with their places, counted from a start. -/
def mappedFrom (start : Nat) (fields : List FieldDescriptor) : List (FieldDescriptor × Nat) :=
  (fields.zipIdx start).filter fun described => !(FieldTag.parse described.1.tag).isIgnored

/-- Places grow along the fields that are not left out. -/
theorem places_mappedFrom (start : Nat) (fields : List FieldDescriptor) :
    ((mappedFrom start fields).map Prod.snd).Pairwise (· < ·) := by
  have sublist : ((mappedFrom start fields).map Prod.snd).Sublist
      ((fields.zipIdx start).map Prod.snd) := (List.filter_sublist).map _
  refine List.Pairwise.sublist sublist ?_
  rw [List.zipIdx_map_snd]
  exact List.pairwise_lt_range'

/-- A field of a model is what a described field comes to at its place, but for the mark of the
only key, which is set in the end. -/
def Setting.Maps (setting : Setting) (described : FieldDescriptor × Nat) (field : Field) : Prop :=
  ∃ size precision scale, ∃ isInlineKey, field =
    { setting.mapped described.2 described.1 (FieldTag.parse described.1.tag) size precision scale
      with isInlineKey := isInlineKey }

/-- The fields that are added to a draft are what the described fields come to, those left out
apart. -/
theorem Setting.addFields_maps {setting : Setting} {draft finished : Draft} {start : Nat}
    {fields : List FieldDescriptor}
    (added : (setting.addFields draft start fields).2 = .ok finished) :
    ∃ later, finished.fields = draft.fields ++ later ∧
      List.Forall₂ setting.Maps (mappedFrom start fields) later := by
  induction fields generalizing draft start with
  | nil =>
    cases added
    exact ⟨[], (List.append_nil _).symm, .nil⟩
  | cons field rest inductionHypothesis =>
    unfold addFields at added
    by_cases ignored : (FieldTag.parse field.tag).isIgnored = true
    · simp only [ignored, if_true] at added
      have skipped : mappedFrom start (field :: rest) = mappedFrom (start + 1) rest := by
        simp [mappedFrom, List.zipIdx_cons, ignored]
      rw [skipped]
      exact inductionHypothesis added
    · simp only [ignored, Bool.false_eq_true, if_false] at added
      have included : mappedFrom start (field :: rest) =
          (field, start) :: mappedFrom (start + 1) rest := by
        simp [mappedFrom, List.zipIdx_cons, ignored]
      cases step : setting.addField draft start field (FieldTag.parse field.tag) with
      | error error =>
        rw [step] at added
        cases added
      | ok further =>
        rw [step] at added
        obtain ⟨size, precision, scale, -, -, -, -, -, -, -, extended, -⟩ :=
          addField_eq_ok.mp step
        obtain ⟨later, fieldsEqual, maps⟩ := inductionHypothesis added
        refine ⟨setting.mapped start field (FieldTag.parse field.tag) size precision scale :: later,
          ?_, ?_⟩
        · rw [fieldsEqual, extended, List.append_assoc, List.singleton_append]
        · rw [included]
          exact .cons ⟨size, precision, scale, _, rfl⟩ maps

/-- The fields have the places of the described fields that they are made of. -/
theorem map_position_of_maps {setting : Setting} {described : List (FieldDescriptor × Nat)}
    {fields : List Field} (maps : List.Forall₂ setting.Maps described fields) :
    fields.map Field.position = described.map Prod.snd := by
  induction maps with
  | nil => rfl
  | cons each _ inductionHypothesis =>
    obtain ⟨size, precision, scale, _, rfl⟩ := each
    exact congrArg (_ :: ·) inductionHypothesis

/-- Marking the only key keeps the fields to what they are made of. -/
theorem maps_markSoleKey {setting : Setting} {described : List (FieldDescriptor × Nat)}
    {fields : List Field} (maps : List.Forall₂ setting.Maps described fields) :
    List.Forall₂ setting.Maps described (markSoleKey fields) := by
  rw [markSoleKey_eq_map, List.forall₂_map_right_iff]
  refine maps.imp ?_
  rintro - - ⟨size, precision, scale, isInlineKey, rfl⟩
  split
  · exact ⟨size, precision, scale, true, rfl⟩
  · exact ⟨size, precision, scale, isInlineKey, rfl⟩

/-- The fields of a model are what the described fields come to under the naming strategy, the only
key among them being marked in the end. -/
theorem fields_of_resolve {naming : NamingStrategy} {descriptor : RecordDescriptor} {model : Model}
    (resolved : (resolve naming descriptor).2 = .ok model) :
    ∃ fields, model.fields = markSoleKey fields ∧ (∀ each ∈ fields, each.isInlineKey = false) ∧
      List.Forall₂ (Setting.Maps ⟨naming, descriptor.name,
        descriptor.table.getD (naming.table descriptor.name)⟩)
        (mappedFrom 0 descriptor.fields) fields := by
  obtain ⟨finished, added, rfl⟩ := resolve_eq_ok resolved
  obtain ⟨later, fieldsEqual, maps⟩ := Setting.addFields_maps added
  rw [← fieldsEqual.trans (List.nil_append later)] at maps
  exact ⟨_, rfl, Setting.addFields_isInlineKey (List.forall_mem_nil _) added, maps⟩

/-- A model has the name and the hooks of the description that resolves to it and a place for each
of the described fields, and its fields are what the described fields come to, the only key among
them being marked in the end. -/
theorem maps_of_resolve {naming : NamingStrategy} {descriptor : RecordDescriptor} {model : Model}
    (resolved : (resolve naming descriptor).2 = .ok model) :
    model.name = descriptor.name ∧ model.hooks = descriptor.hooks ∧
      model.valueCount = descriptor.fields.length ∧ ∃ (setting : Setting) (fields : List Field),
        model.fields = markSoleKey fields ∧ (∀ each ∈ fields, each.isInlineKey = false) ∧
          List.Forall₂ setting.Maps (mappedFrom 0 descriptor.fields) fields := by
  have fields := fields_of_resolve resolved
  obtain ⟨finished, -, rfl⟩ := resolve_eq_ok resolved
  exact ⟨rfl, rfl, rfl, _, fields⟩

end Schema

/-! ### Models of record types -/

/-- A record type resolves to a model under some naming strategy. -/
def RecordType.ResolvesTo (type : RecordType) (model : Model) : Prop :=
  ∃ naming, (Schema.resolve naming type.descriptor).2 = .ok model

theorem RecordField.descriptor_tag (declared : RecordField) :
    declared.descriptor.tag = declared.tag := by
  unfold descriptor
  split <;> rfl

theorem RecordField.descriptor_name (declared : RecordField) :
    declared.descriptor.name = declared.name := by
  unfold descriptor
  split <;> rfl

/-- A field of a record type that is not left out is among the described fields that are mapped, at
its place. -/
theorem RecordType.mem_mappedFrom {type : RecordType} {place : Nat} {declared : RecordField}
    (found : type.fields[place]? = some declared)
    (isMapped : (FieldTag.parse declared.tag).isIgnored = false) :
    (declared.descriptor, place) ∈ Schema.mappedFrom 0 type.descriptor.fields := by
  refine List.mem_filter.mpr ⟨List.mk_mem_zipIdx_iff_getElem?.mpr ?_, ?_⟩
  · simp [descriptor, List.getElem?_map, found]
  · simp [declared.descriptor_tag, isMapped]

/-- A field of a model stands for a field of a record type: it has its name and its kind, the place
of one is that of the other, and the tag does not leave the field out. -/
structure Field.StandsFor (field : Field) (type : RecordType) (declared : RecordField) : Prop where
  place : type.fields[field.position]? = some declared
  name : field.name = declared.name
  kind : field.kind = declared.descriptor.kind
  isMapped : (FieldTag.parse declared.tag).isIgnored = false

namespace RecordType.ResolvesTo

variable {type : RecordType} {model : Model}

theorem isAccepted (resolves : type.ResolvesTo model) : model.IsAccepted :=
  resolves.imp fun _ resolved => ⟨type.descriptor, resolved⟩

/-- The model of a record type has its name and its hooks and a place for each of its fields, and
its fields are what the fields of the type come to. -/
theorem maps (resolves : type.ResolvesTo model) :
    model.name = type.name ∧ model.hooks = type.hooks ∧
      model.valueCount = type.fields.length ∧ ∃ setting : Schema.Setting,
        List.Forall₂ setting.Maps (Schema.mappedFrom 0 type.descriptor.fields) model.fields := by
  obtain ⟨naming, resolved⟩ := resolves
  obtain ⟨name, hooks, valueCount, setting, fields, equal, -, maps⟩ :=
    Schema.maps_of_resolve resolved
  refine ⟨name, hooks, valueCount.trans (List.length_map _), setting, ?_⟩
  rw [equal]
  exact Schema.maps_markSoleKey maps

/-- Every field of the model stands for a field of the record type. -/
theorem standsFor (resolves : type.ResolvesTo model) {field : Field}
    (member : field ∈ model.fields) : ∃ declared, field.StandsFor type declared := by
  obtain ⟨-, -, -, setting, maps⟩ := resolves.maps
  obtain ⟨⟨described, place⟩, describedMember, size, precision, scale, _, rfl⟩ :=
    Outcome.exists_of_forall₂ maps member
  obtain ⟨listed, kept⟩ := List.mem_filter.mp describedMember
  have found : type.descriptor.fields[place]? = some described := by
    simpa using List.mk_mem_zipIdx_iff_getElem?.mp listed
  obtain ⟨declared, stands, rfl⟩ : ∃ declared, type.fields[place]? = some declared ∧
      declared.descriptor = described := by
    simpa [descriptor, List.getElem?_map] using found
  refine ⟨declared, stands, declared.descriptor_name, rfl, ?_⟩
  rw [declared.descriptor_tag] at kept
  simpa using kept

/-- Every field of the record type that is not left out has a field of the model standing for it. -/
theorem exists_standsFor (resolves : type.ResolvesTo model) {place : Nat} {declared : RecordField}
    (found : type.fields[place]? = some declared)
    (isMapped : (FieldTag.parse declared.tag).isIgnored = false) :
    ∃ field ∈ model.fields, field.position = place ∧ field.StandsFor type declared := by
  obtain ⟨-, -, -, setting, maps⟩ := resolves.maps
  obtain ⟨field, member, size, precision, scale, _, rfl⟩ :=
    Outcome.exists_of_forall₂ maps.flip (type.mem_mappedFrom found isMapped)
  exact ⟨_, member, rfl, found, declared.descriptor_name, rfl, isMapped⟩

/-- Places grow along the fields of the model. -/
theorem positions (resolves : type.ResolvesTo model) :
    (model.fields.map Field.position).Pairwise (· < ·) := by
  obtain ⟨-, -, -, setting, maps⟩ := resolves.maps
  rw [Schema.map_position_of_maps maps]
  exact Schema.places_mappedFrom 0 _

end RecordType.ResolvesTo

/-! ### Kept models -/

namespace SchemaCache

/-- What is kept for a record type, if anything, is the model that the type resolves to. -/
def IsFaithful (cache : SchemaCache) (type : RecordType) : Prop :=
  ∀ known, cache.models.lookup type.identity = some known →
    (Schema.resolve cache.naming type.descriptor).2 = .ok known

variable {cache : SchemaCache} {type : RecordType}

theorem isFaithful_empty (naming : NamingStrategy) (type : RecordType) :
    IsFaithful { naming := naming } type :=
  nofun

/-- Asking for a model of a type gives what the type resolves to, whether it is kept or not. -/
theorem IsFaithful.model (faithful : cache.IsFaithful type) :
    (cache.model type).2.1 = (Schema.resolve cache.naming type.descriptor).2 := by
  unfold SchemaCache.model
  cases found : cache.models.lookup type.identity with
  | some known => exact (faithful known found).symm
  | none =>
    obtain ⟨reports, outcome⟩ := Schema.resolve cache.naming type.descriptor
    cases outcome <;> rfl

/-- Asking for a model leaves what is kept faithful to a type, if no other type passes for it. -/
theorem IsFaithful.ask {other : RecordType} (apart : other.identity = type.identity → other = type)
    (faithful : cache.IsFaithful type) : (cache.model other).2.2.IsFaithful type := by
  unfold SchemaCache.model
  cases found : cache.models.lookup other.identity with
  | some known => exact faithful
  | none =>
    cases resolved : Schema.resolve cache.naming other.descriptor with
    | mk reports outcome =>
      cases outcome with
      | error error => exact faithful
      | ok model =>
        intro known kept
        rw [List.lookup_append] at kept
        rcases Option.or_eq_some_iff.mp kept with early | ⟨-, late⟩
        · exact faithful known early
        · rw [List.lookup_cons] at late
          split at late
          · rename_i same
            cases late
            rw [← apart (beq_iff_eq.mp same).symm, resolved]
          · cases late

end SchemaCache

end RecordMapper
