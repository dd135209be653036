/-
This file proves that exactly the lawful record descriptions resolve to a model. Joining an index is
taken apart first: all that matters about the indexes so far is which names are taken, and whether
as unique. A draft that knows the columns and the index names of the fields before then tells every
defect of the next field, and knows that field as well once it has been added; so by induction the
fields are gone through up to the first defect or to their end.
-/

import RecordMapper.Proofs.Schema.Lawful

namespace RecordMapper

open RecordMapper.Text

namespace Schema

/-! ### Joining indexes -/

/-- Whether an index of a name is unique, if there is one. -/
def uniqueness? (indexes : List Index) (name : String) : Option Bool :=
  (indexes.find? fun index => index.name == name).map Index.isUnique

section

variable {record name column : String} {isUnique : Bool} {indexes joined : List Index}

theorem uniqueness?_cons (index : Index) (rest : List Index) (name : String) :
    uniqueness? (index :: rest) name =
      if index.name = name then some index.isUnique else uniqueness? rest name := by
  unfold uniqueness?
  rw [List.find?_cons]
  by_cases same : index.name = name
  · simp [same]
  · simp [same, beq_false_of_ne same]

/-- A column cannot join an index of the other sort. -/
theorem joinIndex_of_taken (taken : uniqueness? indexes name = some (!isUnique)) :
    joinIndex record name isUnique column indexes = .error (.indexConflict record name) := by
  induction indexes with
  | nil => cases taken
  | cons index rest inductionHypothesis =>
    rw [uniqueness?_cons] at taken
    unfold joinIndex
    by_cases same : index.name = name
    · rw [if_pos same] at taken
      have differs : index.isUnique ≠ isUnique := by
        rw [Option.some.inj taken]
        cases isUnique <;> decide
      rw [if_pos same, if_neg differs]
    · rw [if_neg same] at taken
      rw [if_neg same, inductionHypothesis taken]
      rfl

/-- A column that joins an index takes its name for the sort that was asked for and leaves all other
names alone. -/
theorem joinIndex_of_free (record column : String)
    (free : uniqueness? indexes name ≠ some (!isUnique)) :
    ∃ joined, joinIndex record name isUnique column indexes = .ok joined ∧
      ∀ other sort, uniqueness? joined other = some sort ↔
        uniqueness? indexes other = some sort ∨ (sort = isUnique ∧ other = name) := by
  induction indexes with
  | nil =>
    refine ⟨_, rfl, fun other sort => ?_⟩
    rw [uniqueness?_cons]
    simp [uniqueness?, eq_comm, and_comm]
  | cons index rest inductionHypothesis =>
    rw [uniqueness?_cons] at free
    unfold joinIndex
    by_cases same : index.name = name
    · rw [if_pos same] at free
      have agrees : index.isUnique = isUnique := by
        simpa [Bool.eq_not] using free
      -- Whether or not the column is new to the index, its name and its sort stay.
      have kept : ∀ grown : Index, grown.name = name → grown.isUnique = isUnique →
          ∀ other sort, uniqueness? (grown :: rest) other = some sort ↔
            uniqueness? (index :: rest) other = some sort ∨ (sort = isUnique ∧ other = name) := by
        intro grown sameName sameSort other sort
        rw [uniqueness?_cons, uniqueness?_cons, sameName, sameSort, same, agrees]
        by_cases equal : name = other
        · simp [equal, eq_comm]
        · simp [equal, Ne.symm equal]
      rw [if_pos same, if_pos agrees]
      refine ⟨_, rfl, ?_⟩
      split
      · exact kept index same agrees
      · exact kept _ same agrees
    · rw [if_neg same] at free
      obtain ⟨joined, success, after⟩ := inductionHypothesis free
      rw [if_neg same, success]
      refine ⟨index :: joined, rfl, fun other sort => ?_⟩
      rw [uniqueness?_cons, uniqueness?_cons]
      by_cases equal : index.name = other
      · have differs : other ≠ name := fun sameOther => same (equal.trans sameOther)
        simp [equal, differs]
      · simp [equal, after]

/-- Of several names the first one that is taken for the other sort is reported; if there is none,
all of them are taken afterwards. -/
theorem joinIndexes_cases (record column : String) (isUnique : Bool) (names : List String)
    (indexes : List Index) :
    (∃ name, names.find? (fun name => uniqueness? indexes name = some (!isUnique)) = some name ∧
      joinIndexes record isUnique column names indexes = .error (.indexConflict record name)) ∨
    (names.find? (fun name => uniqueness? indexes name = some (!isUnique)) = none ∧
      ∃ joined, joinIndexes record isUnique column names indexes = .ok joined ∧
        ∀ other sort, uniqueness? joined other = some sort ↔
          uniqueness? indexes other = some sort ∨ (sort = isUnique ∧ other ∈ names)) := by
  induction names generalizing indexes with
  | nil => exact .inr ⟨rfl, indexes, rfl, fun other sort => by simp⟩
  | cons name rest inductionHypothesis =>
    unfold joinIndexes
    by_cases taken : uniqueness? indexes name = some (!isUnique)
    · rw [joinIndex_of_taken taken]
      exact .inl ⟨name, by simp [taken], rfl⟩
    · obtain ⟨joined, success, after⟩ :=
        joinIndex_of_free record column taken
      -- A name that has just been taken for this sort is no obstacle to the names behind it.
      have same : (name :: rest).find? (fun later => uniqueness? indexes later = some (!isUnique)) =
          rest.find? fun later => uniqueness? joined later = some (!isUnique) := by
        rw [List.find?_cons_of_neg (by simpa using taken)]
        simp [after]
      rw [success, same]
      rcases inductionHypothesis joined with ⟨other, found, failed⟩ | ⟨free, last, success, later⟩
      · exact .inl ⟨other, found, failed⟩
      · refine .inr ⟨free, last, success, fun other sort => ?_⟩
        rw [later, after, List.mem_cons, and_or_left, or_assoc]

end

/-! ### What a draft knows -/

/-- Under a column a draft finds the field that has it. -/
theorem Draft.IsFiled.fieldByColumn?_eq_find? {draft : Draft} (filed : draft.IsFiled)
    (column : String) :
    draft.fieldByColumn? column = draft.fields.find? fun each => each.column == column := by
  cases found : draft.fields.find? fun each => each.column == column with
  | none => exact filed.fieldByColumn?_eq_none.mpr (by simpa using List.find?_eq_none.mp found)
  | some field =>
    rw [Draft.fieldByColumn?, filed.byColumn]
    refine (PlaceTable.bind_eq_some_of_nodup filed.columns).mpr
      ⟨List.mem_of_find?_eq_some found, ?_⟩
    simpa using List.find?_some found

/-- A draft knows the mapped fields before: their columns with their names, and the names of the
indexes that they ask for with the sort of each. -/
structure Draft.Knows (draft : Draft) (setting : Setting) (earlier : List FieldDescriptor) :
    Prop where
  columns : draft.fields.map (fun field => (field.column, field.name)) =
    earlier.map fun field => (setting.columnOf field, field.name)
  indexes : ∀ name isUnique, uniqueness? draft.indexes name = some isUnique ↔
    ∃ other ∈ earlier, name ∈ setting.indexesOf isUnique other

namespace Setting

variable {setting : Setting} {draft : Draft} {earlier : List FieldDescriptor}
  {field : FieldDescriptor}

/-- A number of a tag is refused if it is there and cannot be read. -/
theorem errorOf_tagNumber (record name key : String) (value : Option String) :
    Outcome.errorOf (tagNumber record name key value) =
      value.bind fun text =>
        if FieldTag.IsNumber text then none
        else some (.badTag record name (.notANumber key text)) := by
  cases value with
  | none => rfl
  | some text =>
    unfold tagNumber FieldTag.number
    by_cases isNumber : FieldTag.IsNumber text
    · obtain ⟨number, read, small⟩ := FieldTag.isNumber_iff.mp isNumber
      simp only [read, small, isNumber, Option.bind_some, if_true]
      rfl
    · simp only [Option.bind_some, isNumber, if_false]
      cases read : unsigned? text.toList with
      | none => rfl
      | some number =>
        have large : ¬ number < Nat.pow 2 32 := fun small =>
          isNumber (FieldTag.isNumber_iff.mpr ⟨number, read, small⟩)
        simp only [large, if_false]
        rfl

/-- Of the texts that are to be numbers, one that is there is looked at before the rest. -/
theorem find?_numbers (record name key : String) (value : Option String)
    (rest : List (String × String)) :
    (((value.map fun text => (key, text)).toList ++ rest).find?
        fun entry => ¬ FieldTag.IsNumber entry.2).map
        (fun entry => Error.badTag record name (.notANumber entry.1 entry.2)) =
      (Outcome.errorOf (tagNumber record name key value)).or
        ((rest.find? fun entry => ¬ FieldTag.IsNumber entry.2).map
          fun entry => .badTag record name (.notANumber entry.1 entry.2)) := by
  rw [errorOf_tagNumber]
  cases value with
  | none => rfl
  | some text =>
    by_cases isNumber : FieldTag.IsNumber text
    · simp [isNumber]
    · simp [isNumber]

/-- The numbers of a tag are read in order, and the first that cannot be read is reported. -/
theorem numberDefect?_eq {tag : FieldTag} (parsed : FieldTag.parse field.tag = tag) :
    setting.numberDefect? field =
      (Outcome.errorOf (tagNumber setting.record field.name "size" tag.size)).or
        ((Outcome.errorOf (tagNumber setting.record field.name "precision" tag.precision)).or
          (Outcome.errorOf (tagNumber setting.record field.name "scale" tag.scale))) := by
  have listed : numberTexts field =
      (tag.size.map fun text => ("size", text)).toList ++
        ((tag.precision.map fun text => ("precision", text)).toList ++
          ((tag.scale.map fun text => ("scale", text)).toList ++ [])) := by
    unfold numberTexts
    simp only [parsed, List.filterMap_cons, List.filterMap_nil]
    cases tag.size <;> cases tag.precision <;> cases tag.scale <;> rfl
  rw [numberDefect?, listed, find?_numbers, find?_numbers, find?_numbers]
  simp only [List.find?_nil, Option.map_none, Option.or_none]

/-- An earlier field with the column of a field is the one that the draft finds under it. -/
theorem columnDefect?_eq (filed : draft.IsFiled) (knows : draft.Knows setting earlier) :
    setting.columnDefect? earlier field =
      (draft.fieldByColumn? (setting.columnOf field)).map fun other =>
        .duplicateColumn setting.record (setting.columnOf field) other.name field.name := by
  rw [filed.fieldByColumn?_eq_find?]
  have found := congrArg (fun known : List (String × String) =>
    (known.find? fun entry => entry.1 == setting.columnOf field).map fun entry =>
      Error.duplicateColumn setting.record (setting.columnOf field) entry.2 field.name)
    knows.columns
  simp only [List.find?_map, Option.map_map] at found
  exact found.symm

/-- An index that earlier fields ask for as one of the other sort is one that the draft has as
such. -/
theorem indexDefect?_eq {isUnique : Bool} {indexes : List Index} {others : List FieldDescriptor}
    (indexesOf : ∀ name, uniqueness? indexes name = some (!isUnique) ↔
      ∃ other ∈ others, name ∈ setting.indexesOf (!isUnique) other) :
    setting.indexDefect? field isUnique others =
      ((setting.indexesOf isUnique field).find? fun name =>
        uniqueness? indexes name = some (!isUnique)).map (.indexConflict setting.record) := by
  unfold indexDefect?
  simp only [indexesOf]

/-- Adding a field reads its numbers, looks for its column among those before and joins its plain
and then its unique indexes. -/
theorem addField_eq (setting : Setting) (draft : Draft) (position : Nat)
    (field : FieldDescriptor) {tag : FieldTag} (parsed : FieldTag.parse field.tag = tag) :
    setting.addField draft position field tag =
      (tagNumber setting.record field.name "size" tag.size).bind fun size =>
      (tagNumber setting.record field.name "precision" tag.precision).bind fun precision =>
      (tagNumber setting.record field.name "scale" tag.scale).bind fun scale =>
        match draft.fieldByColumn? (setting.columnOf field) with
        | some other =>
          .error (.duplicateColumn setting.record (setting.columnOf field) other.name field.name)
        | none =>
          (joinIndexes setting.record false (setting.columnOf field)
            (setting.indexesOf false field) draft.indexes).bind fun withPlain =>
          (joinIndexes setting.record true (setting.columnOf field)
            (setting.indexesOf true field) withPlain).map fun withUnique =>
              { fields := draft.fields ++ [setting.mapped position field tag size precision scale]
                byName := draft.byName.enter field.name draft.fields.length
                byColumn := draft.byColumn.enter (setting.columnOf field) draft.fields.length
                indexes := withUnique } := by
  subst parsed
  have columnOf : setting.column (FieldTag.parse field.tag) field = setting.columnOf field := rfl
  unfold addField
  simp only [columnOf]
  cases draft.fieldByColumn? (setting.columnOf field) with
  | some other => rfl
  | none => rfl

/-- A field with a defect is refused with the report of it; any other is added, and the draft then
knows it as well. -/
theorem addField_cases (filed : draft.IsFiled) (knows : draft.Knows setting earlier)
    (position : Nat) (field : FieldDescriptor) :
    (∃ error, setting.defect? earlier field = some error ∧
      setting.addField draft position field (FieldTag.parse field.tag) = .error error) ∨
    (setting.defect? earlier field = none ∧ ∃ further,
      setting.addField draft position field (FieldTag.parse field.tag) = .ok further ∧
        further.Knows setting (earlier ++ [field])) := by
  unfold defect?
  rw [addField_eq setting draft position field rfl, numberDefect?_eq rfl,
    columnDefect?_eq filed knows, indexDefect?_eq fun name => knows.indexes name true]
  cases tagNumber setting.record field.name "size" (FieldTag.parse field.tag).size with
  | error error => exact .inl ⟨error, rfl, rfl⟩
  | ok size =>
  cases tagNumber setting.record field.name "precision" (FieldTag.parse field.tag).precision with
  | error error => exact .inl ⟨error, rfl, rfl⟩
  | ok precision =>
  cases tagNumber setting.record field.name "scale" (FieldTag.parse field.tag).scale with
  | error error => exact .inl ⟨error, rfl, rfl⟩
  | ok scale =>
  cases draft.fieldByColumn? (setting.columnOf field) with
  | some other => exact .inl ⟨_, rfl, rfl⟩
  | none =>
  rcases joinIndexes_cases setting.record (setting.columnOf field) false
    (setting.indexesOf false field) draft.indexes with
    ⟨name, found, failed⟩ | ⟨free, withPlain, joined, plain⟩
  · rw [found]
    simp only [failed]
    exact .inl ⟨_, rfl, rfl⟩
  have plainOf (name : String) : uniqueness? withPlain name = some (!true) ↔
      ∃ other ∈ earlier ++ [field], name ∈ setting.indexesOf (!true) other := by
    simp [plain, knows.indexes, or_and_right, exists_or]
  rw [free, indexDefect?_eq plainOf]
  rcases joinIndexes_cases setting.record (setting.columnOf field) true
    (setting.indexesOf true field) withPlain with
    ⟨name, found, failed⟩ | ⟨freeToo, withUnique, joinedToo, unique⟩
  · rw [found]
    simp only [joined, Except.bind, failed]
    exact .inl ⟨_, rfl, rfl⟩
  · rw [freeToo]
    simp only [joined, Except.bind, joinedToo]
    refine .inr ⟨rfl, _, rfl, ?_, fun name sort => ?_⟩
    · rw [List.map_append, List.map_append, knows.columns]
      rfl
    · cases sort with
      | false => simp [unique, plain, knows.indexes, or_and_right, exists_or]
      | true => simp [unique, plain, knows.indexes, or_and_right, exists_or]

/-- Fields that can stand together with those before are all added; otherwise the first defect is
reported. -/
theorem addFields_cases (filed : draft.IsFiled) (knows : draft.Knows setting earlier)
    (admits : setting.Admits earlier) (position : Nat) (fields : List FieldDescriptor) :
    (setting.Admits (earlier ++ mappedFields fields) ∧ ∃ finished,
      (setting.addFields draft position fields).2 = .ok finished ∧
        finished.Knows setting (earlier ++ mappedFields fields)) ∨
    ∃ error, setting.FirstDefect (earlier ++ mappedFields fields) error ∧
      (setting.addFields draft position fields).2 = .error error := by
  induction fields generalizing draft earlier position with
  | nil =>
    have unchanged : earlier ++ mappedFields [] = earlier := List.append_nil earlier
    rw [unchanged]
    exact .inl ⟨admits, draft, rfl, knows⟩
  | cons field rest inductionHypothesis =>
    unfold addFields
    by_cases ignored : (FieldTag.parse field.tag).isIgnored = true
    · have skipped : mappedFields (field :: rest) = mappedFields rest :=
        List.filter_cons_of_neg (by simp [ignored])
      simp only [ignored, if_true, skipped]
      exact inductionHypothesis filed knows admits (position + 1)
    · have included : earlier ++ mappedFields (field :: rest) =
          (earlier ++ [field]) ++ mappedFields rest := by
        rw [← List.append_cons]
        exact congrArg _ (List.filter_cons_of_pos (by simp [ignored]))
      simp only [ignored, Bool.false_eq_true, if_false, included]
      rcases addField_cases filed knows position field with
        ⟨error, defect, refused⟩ | ⟨faultless, further, added, knowsFurther⟩
      · rw [refused]
        exact .inr ⟨error, ⟨earlier, field, mappedFields rest, (List.append_cons ..).symm, admits,
          defect⟩, rfl⟩
      · rw [added]
        exact inductionHypothesis (addField_isFiled filed added) knowsFurther
          (admits_append_singleton.mpr ⟨admits, faultless⟩) (position + 1)

end Setting

/-! ### Descriptions -/

variable {naming : NamingStrategy} {descriptor : RecordDescriptor}

theorem mappedFields_ne_nil {fields : List FieldDescriptor} :
    mappedFields fields ≠ [] ↔ ∃ field ∈ fields, (FieldTag.parse field.tag).isIgnored = false := by
  simp [mappedFields]

/-- A description with a name resolves if its mapped fields are there and can stand together.
Otherwise the first defect is reported, or that no field is mapped. -/
theorem resolve_cases (naming : NamingStrategy)
    (isNamed : isAllBlank descriptor.name = false) :
    ((settingOf naming descriptor).Admits (mappedFields descriptor.fields) ∧
      (mappedFields descriptor.fields ≠ [] ∧ (∃ model, (resolve naming descriptor).2 = .ok model) ∨
        mappedFields descriptor.fields = [] ∧ (resolve naming descriptor).2 =
          .error (.invalidRecord (.unmapped descriptor.name)))) ∨
    ∃ error, (settingOf naming descriptor).FirstDefect (mappedFields descriptor.fields) error ∧
      (resolve naming descriptor).2 = .error error := by
  have resolved : (resolve naming descriptor).2 =
      ((settingOf naming descriptor).addFields {} 0 descriptor.fields).2.bind
        ((settingOf naming descriptor).finish descriptor) := by
    unfold resolve
    rw [isNamed]
    rfl
  have knowsNothing : Draft.Knows {} (settingOf naming descriptor) [] :=
    ⟨rfl, fun name sort => by simp [uniqueness?]⟩
  have admitsNothing : (settingOf naming descriptor).Admits [] :=
    ⟨nofun, List.nodup_nil, nofun⟩
  rw [resolved]
  rcases Setting.addFields_cases Draft.isFiled_empty knowsNothing admitsNothing 0
    descriptor.fields with
    ⟨admits, finished, added, knows⟩ | ⟨error, defect, failed⟩
  · rw [List.nil_append] at admits knows
    refine .inl ⟨admits, ?_⟩
    have columns := knows.columns
    rw [added]
    simp only [Except.bind, Setting.finish]
    by_cases unmapped : mappedFields descriptor.fields = []
    · have isEmpty : finished.fields = [] := by simpa [unmapped] using columns
      rw [isEmpty]
      exact .inr ⟨unmapped, rfl⟩
    · have nonempty : finished.fields.isEmpty = false := by
        rw [List.isEmpty_eq_false_iff]
        intro isEmpty
        exact unmapped (by simpa [isEmpty] using columns.symm)
      rw [nonempty]
      exact .inl ⟨unmapped, _, rfl⟩
  · rw [failed]
    exact .inr ⟨error, defect, rfl⟩

/-- Exactly the lawful descriptions resolve. -/
theorem exists_resolve_eq_ok_iff :
    (∃ model, (resolve naming descriptor).2 = .ok model) ↔ IsLawful naming descriptor := by
  constructor
  · rintro ⟨model, resolved⟩
    have isNamed : isAllBlank descriptor.name = false := by
      rw [← Bool.not_eq_true]
      intro isBlank
      rw [resolve, if_pos isBlank] at resolved
      cases resolved
    rcases resolve_cases naming isNamed with
      ⟨admits, ⟨isMapped, -⟩ | ⟨-, failed⟩⟩ | ⟨error, -, failed⟩
    · exact ⟨isNamed, mappedFields_ne_nil.mp isMapped, admits⟩
    · rw [failed] at resolved
      cases resolved
    · rw [failed] at resolved
      cases resolved
  · rintro ⟨isNamed, isMapped, admits⟩
    rcases resolve_cases naming isNamed with
      ⟨-, ⟨-, resolved⟩ | ⟨unmapped, -⟩⟩ | ⟨error, defect, -⟩
    · exact resolved
    · exact absurd unmapped (mappedFields_ne_nil.mpr isMapped)
    · exact absurd admits defect.not_admits

/-- A description with a name is refused with the report of its first defect, or because no field is
mapped. -/
theorem resolve_eq_error_iff (isNamed : isAllBlank descriptor.name = false) {error : Error} :
    (resolve naming descriptor).2 = .error error ↔
      (settingOf naming descriptor).FirstDefect (mappedFields descriptor.fields) error ∨
        mappedFields descriptor.fields = [] ∧
          error = .invalidRecord (.unmapped descriptor.name) := by
  rcases resolve_cases naming isNamed with ⟨admits, outcome⟩ | ⟨other, defect, failed⟩
  · have faultless : ¬ (settingOf naming descriptor).FirstDefect
        (mappedFields descriptor.fields) error := fun defect => defect.not_admits admits
    rcases outcome with ⟨isMapped, model, resolved⟩ | ⟨unmapped, failed⟩
    · rw [resolved]
      simp [isMapped, faultless]
    · rw [failed, unmapped]
      rw [unmapped] at faultless
      simp [faultless, eq_comm]
  · rw [failed]
    constructor
    · intro equal
      exact .inl (Except.error.inj equal ▸ defect)
    · rintro (same | ⟨unmapped, -⟩)
      · rw [defect.unique same]
      · obtain ⟨opening, field, rest, equal, -, -⟩ := defect
        rw [unmapped] at equal
        exact absurd equal.symm (List.append_ne_nil_of_right_ne_nil _ (List.cons_ne_nil _ _))

/-- Whether mapped fields can stand together does not depend on their order. -/
theorem Setting.Admits.perm {setting : Setting} {fields others : List FieldDescriptor}
    (admits : setting.Admits fields) (same : fields.Perm others) : setting.Admits others where
  numbers field member := admits.numbers field (same.mem_iff.mpr member)
  columns := (same.map setting.columnOf).nodup_iff.mp admits.columns
  indexes field member other otherMember :=
    admits.indexes field (same.mem_iff.mpr member) other (same.mem_iff.mpr otherMember)

/-- Lawful is also what differs from a lawful description in the order of its fields. -/
theorem IsLawful.perm {other : RecordDescriptor} (lawful : IsLawful naming descriptor)
    (name : descriptor.name = other.name) (table : descriptor.table = other.table)
    (fields : descriptor.fields.Perm other.fields) : IsLawful naming other where
  isNamed := name ▸ lawful.isNamed
  isMapped := by
    obtain ⟨field, member, isMapped⟩ := lawful.isMapped
    exact ⟨field, fields.mem_iff.mp member, isMapped⟩
  admits := by
    have sameSetting : settingOf naming other = settingOf naming descriptor := by
      unfold settingOf
      rw [name, table]
    rw [sameSetting]
    exact lawful.admits.perm (fields.filter _)

/-- A description resolves exactly if it is lawful. One without a name is refused as such. For any
other that is refused the report is of the first defect in the order of the fields, or that no field
is mapped. In which order the fields stand does not decide about acceptance. -/
theorem accepts_lawful (naming : NamingStrategy) (descriptor : RecordDescriptor) :
    ((∃ model, (resolve naming descriptor).2 = .ok model) ↔ IsLawful naming descriptor) ∧
    (isAllBlank descriptor.name = true →
      (resolve naming descriptor).2 = .error (.invalidRecord .unnamed)) ∧
    (isAllBlank descriptor.name = false → ∀ error, (resolve naming descriptor).2 = .error error ↔
      (settingOf naming descriptor).FirstDefect (mappedFields descriptor.fields) error ∨
        mappedFields descriptor.fields = [] ∧
          error = .invalidRecord (.unmapped descriptor.name)) ∧
    ∀ other : RecordDescriptor, descriptor.name = other.name → descriptor.table = other.table →
      descriptor.fields.Perm other.fields →
      ((∃ model, (resolve naming descriptor).2 = .ok model) ↔
        ∃ model, (resolve naming other).2 = .ok model) := by
  refine ⟨exists_resolve_eq_ok_iff, fun isBlank => ?_,
    fun isNamed error => resolve_eq_error_iff isNamed, fun other name table fields => ?_⟩
  · rw [resolve, if_pos isBlank]
  · rw [exists_resolve_eq_ok_iff, exists_resolve_eq_ok_iff]
    exact ⟨fun lawful => lawful.perm name table fields,
      fun lawful => lawful.perm name.symm table.symm fields.symm⟩

/-- An index that is named like the one of a unique column is refused, for it would be plain. -/
example : (resolve .snakeCasePlural
    { name := "Login", table := none, hooks := []
      fields := [⟨"email", .text, false, "unique"⟩,
        ⟨"alias", .text, false, "index:uix_logins_email"⟩] }).2 =
      .error (.indexConflict "Login" "uix_logins_email") := by
  decide +kernel

end Schema

end RecordMapper
