/-
This file says when the indexes of a model that were declared without a name keep the fields apart
that ask for them. Such an index is named after its table and its column, and fields are brought
together by the name. As the name is cut off at a limit, two columns can come to have one name, and
then a single index over both, although each field asked for one of its own. So the fields are kept
apart exactly if the cut names of those that ask for indexes of one sort are pairwise distinct. They
are as long as nothing has to be cut off.
-/

import RecordMapper.Proofs.FieldTag
import RecordMapper.Proofs.Naming.Truncation
import RecordMapper.Proofs.Schema.Memberships

namespace RecordMapper

open RecordMapper.Naming

/-! ### Asking for an index without naming it -/

/-- A clause asks for a plain or for a unique index. -/
def Clause.AsksFor (isUnique : Bool) (clause : Clause) : Prop :=
  if isUnique then clause.comparedKey = "unique" ∨ clause.comparedKey = "uniqueindex"
  else clause.comparedKey = "index"

/-- A field asks for a plain or for a unique index in one of its clauses. -/
def FieldDescriptor.AsksFor (isUnique : Bool) (field : FieldDescriptor) : Prop :=
  ∃ clause ∈ FieldTag.clauses field.tag.toList, clause.AsksFor isUnique

/-- None of the indexes that a field asks for is named. -/
def FieldDescriptor.LeavesUnnamed (field : FieldDescriptor) : Prop :=
  ∀ clause ∈ FieldTag.clauses field.tag.toList,
    clause.comparedKey = "index" ∨ clause.comparedKey = "uniqueindex" → clause.value = none

instance (isUnique : Bool) : DecidablePred (Clause.AsksFor isUnique) := fun _ =>
  inferInstanceAs (Decidable (if isUnique then _ else _))

instance (isUnique : Bool) : DecidablePred (FieldDescriptor.AsksFor isUnique) := fun field =>
  inferInstanceAs
    (Decidable (∃ clause ∈ FieldTag.clauses field.tag.toList, clause.AsksFor isUnique))

instance : DecidablePred FieldDescriptor.LeavesUnnamed := fun field =>
  inferInstanceAs (Decidable (∀ _ ∈ FieldTag.clauses field.tag.toList, _))

namespace Schema

/-- The name that is generated for an index over the column of a field. -/
def Setting.generatedIndex (setting : Setting) (isUnique : Bool) (field : FieldDescriptor) :
    String :=
  setting.naming.index (if isUnique then "uix" else "idx") setting.table (setting.columnOf field)

/-- Clauses of a key that give no name stand for the name that is generated in their stead. -/
theorem mem_unnamed {clauses : List Clause} {key name generated : String}
    (unnamed : ∀ clause ∈ clauses, clause.comparedKey = key → clause.value = none) :
    name ∈ ((clauses.filter fun clause => clause.comparedKey = key).map Clause.text).map
        (·.getD generated) ↔
      (∃ clause ∈ clauses, clause.comparedKey = key) ∧ generated = name := by
  have absent (clause : Clause)
      (kept : clause ∈ clauses.filter fun clause => clause.comparedKey = key) :
      clause.text.getD generated = generated := by
    obtain ⟨member, same⟩ := List.mem_filter.mp kept
    rw [Clause.text, unnamed clause member (of_decide_eq_true same)]
    rfl
  rw [List.map_map, List.mem_map]
  constructor
  · rintro ⟨clause, kept, named⟩
    obtain ⟨member, same⟩ := List.mem_filter.mp kept
    exact ⟨⟨clause, member, of_decide_eq_true same⟩, (absent clause kept).symm.trans named⟩
  · rintro ⟨⟨clause, member, same⟩, named⟩
    have kept : clause ∈ clauses.filter fun clause => clause.comparedKey = key :=
      List.mem_filter.mpr ⟨member, decide_eq_true same⟩
    exact ⟨clause, kept, (absent clause kept).trans named⟩

/-- A field that names no index asks for the generated one of each sort that it asks for. -/
theorem Setting.mem_indexesOf {setting : Setting} {field : FieldDescriptor} {isUnique : Bool}
    {name : String} (unnamed : field.LeavesUnnamed) :
    name ∈ setting.indexesOf isUnique field ↔
      field.AsksFor isUnique ∧ setting.generatedIndex isUnique field = name := by
  have read := FieldTag.parse_eq_ofClauses field.tag
  cases isUnique with
  | false =>
    show name ∈ setting.plainIndexes (FieldTag.parse field.tag) (setting.columnOf field) ↔ _
    rw [plainIndexes, read]
    exact mem_unnamed fun clause member same => unnamed clause member (.inl same)
  | true =>
    show name ∈ setting.uniqueIndexes (FieldTag.parse field.tag) (setting.columnOf field) ↔ _
    have flagged : (FieldTag.ofClauses (FieldTag.clauses field.tag.toList)).isUnique =
        (FieldTag.clauses field.tag.toList).any fun clause => clause.comparedKey == "unique" :=
      FieldTag.not_isEmpty_under _ _
    rw [uniqueIndexes, List.mem_append, read, flagged]
    show _ ∨ name ∈ (FieldTag.under "uniqueindex" _).map _ ↔ _
    rw [FieldTag.under, mem_unnamed fun clause member same => unnamed clause member (.inr same)]
    have asks : field.AsksFor true ↔
        (∃ clause ∈ FieldTag.clauses field.tag.toList, clause.comparedKey = "unique") ∨
          ∃ clause ∈ FieldTag.clauses field.tag.toList, clause.comparedKey = "uniqueindex" := by
      simp only [FieldDescriptor.AsksFor, Clause.AsksFor, if_true, and_or_left, exists_or]
    rw [asks, or_and_right, List.mem_ite_nil_right, List.mem_singleton, List.any_eq_true,
      eq_comm]
    simp only [beq_iff_eq]
    rfl

/-! ### Columns of unnamed indexes -/

/-- The mapped fields that ask for indexes of a sort. -/
def askers (isUnique : Bool) (fields : List FieldDescriptor) : List FieldDescriptor :=
  (mappedFields fields).filter fun field => field.AsksFor isUnique

/-- The names that are generated for indexes of one sort are pairwise distinct. -/
def Setting.GeneratesApart (setting : Setting) (fields : List FieldDescriptor) : Prop :=
  ∀ isUnique, ((askers isUnique fields).map (setting.generatedIndex isUnique)).Nodup

section

variable {setting : Setting} {described : List FieldDescriptor} {fields : List Field}

/-- A roll has the columns of the described fields that ask for the index. -/
theorem rollOf_of_enters (enters : List.Forall₂ setting.Enters described fields) (isUnique : Bool)
    (name : String) :
    rollOf fields isUnique name =
      (described.filter fun field => name ∈ setting.indexesOf isUnique field).map
        setting.columnOf := by
  induction enters with
  | nil => rfl
  | cons entered _ inductionHypothesis =>
    unfold rollOf at inductionHypothesis ⊢
    rw [List.filter_cons, List.filter_cons, entered.2 isUnique]
    split
    · rw [List.map_cons, List.map_cons, inductionHypothesis, entered.1]
    · exact inductionHypothesis

/-- Where no index is named, a roll has the columns of the fields for which its name is
generated. -/
theorem rollOf_unnamed {all : List FieldDescriptor} (unnamed : ∀ field ∈ mappedFields all,
      field.LeavesUnnamed)
    (enters : List.Forall₂ setting.Enters (mappedFields all) fields) (isUnique : Bool)
    (name : String) :
    rollOf fields isUnique name =
      ((askers isUnique all).filter fun field =>
        setting.generatedIndex isUnique field = name).map setting.columnOf := by
  rw [rollOf_of_enters enters, askers, List.filter_filter]
  refine congrArg _ (List.filter_congr fun field member => ?_)
  rw [← Bool.decide_and, decide_eq_decide, Setting.mem_indexesOf (unnamed field member)]
  exact and_comm

end

end Schema

/-- Every index of a model is over one column, and every field that asks for an index of a sort has
one over its own column. -/
structure Model.HasSingleIndexes (model : Model) (fields : List FieldDescriptor) : Prop where
  single : ∀ index ∈ model.indexes, ∃ column, index.columns = [column]
  own : List.Forall₂ (fun (described : FieldDescriptor) field =>
      ∀ isUnique, described.AsksFor isUnique →
        ∃ index ∈ model.indexes, index.isUnique = isUnique ∧ index.columns = [field.column])
    (Schema.mappedFields fields) model.fields

namespace Schema

variable {naming : NamingStrategy} {descriptor : RecordDescriptor} {model : Model}

/-- Where no index is named and all are over one column, every field has those that it asks for. -/
theorem hasSingleIndexes_of_single (resolved : (resolve naming descriptor).2 = .ok model)
    (unnamed : ∀ field ∈ mappedFields descriptor.fields, field.LeavesUnnamed)
    (single : ∀ index ∈ model.indexes, ∃ column, index.columns = [column]) :
    model.HasSingleIndexes descriptor.fields := by
  have accepted : model.IsAccepted := ⟨naming, descriptor, resolved⟩
  have follow := follow_of_resolve resolved
  obtain ⟨lengths, enters⟩ := List.forall₂_iff_zip.mp (enters_of_resolve resolved)
  refine ⟨single, List.forall₂_iff_zip.mpr
    ⟨lengths, fun {described field} paired isUnique asks => ?_⟩⟩
  obtain ⟨describedMember, member⟩ := List.of_mem_zip paired
  have joins : (settingOf naming descriptor).generatedIndex isUnique described ∈
      field.memberships isUnique := by
    rw [(enters paired).2 isUnique,
      Setting.mem_indexesOf (unnamed described describedMember)]
    exact ⟨asks, rfl⟩
  have listed := (column_mem_rollOf accepted.columns_nodup member).mpr joins
  obtain ⟨index, indexMember, named, sort⟩ :=
    follow.complete isUnique _ (List.ne_nil_of_mem listed)
  obtain ⟨column, columns⟩ := single index indexMember
  rw [← named, ← sort, ← follow.columns index indexMember, columns, List.mem_singleton] at listed
  exact ⟨index, indexMember, sort, by rw [columns, listed]⟩

/-- Where no index is named, all are over one column exactly if the generated names are pairwise
distinct for each sort. -/
theorem single_iff_generatesApart (resolved : (resolve naming descriptor).2 = .ok model)
    (unnamed : ∀ field ∈ mappedFields descriptor.fields, field.LeavesUnnamed) :
    (∀ index ∈ model.indexes, ∃ column, index.columns = [column]) ↔
      (settingOf naming descriptor).GeneratesApart descriptor.fields := by
  have follow := follow_of_resolve resolved
  have counts (isUnique : Bool) (name : String) :
      ((askers isUnique descriptor.fields).map
        ((settingOf naming descriptor).generatedIndex isUnique)).count name =
          (rollOf model.fields isUnique name).length := by
    rw [rollOf_unnamed unnamed (enters_of_resolve resolved), List.length_map,
      List.count_eq_countP, List.countP_map, List.countP_eq_length_filter]
    rfl
  constructor
  · intro single isUnique
    refine List.nodup_iff_count_le_one.mpr fun name => ?_
    rw [counts]
    by_cases entries : rollOf model.fields isUnique name = []
    · rw [entries]
      exact Nat.zero_le 1
    · obtain ⟨index, member, rfl, rfl⟩ := follow.complete isUnique name entries
      obtain ⟨column, columns⟩ := single index member
      rw [← follow.columns index member, columns]
      exact Nat.le_refl 1
  · intro apart index member
    have most := List.nodup_iff_count_le_one.mp (apart index.isUnique) index.name
    rw [counts, ← follow.columns index member] at most
    have least := List.length_pos_iff.mpr (follow.nonempty index member)
    exact List.length_eq_one_iff.mp (by omega)

/-- What the names that are generated for indexes of a sort say before the column. -/
def Setting.generatedOpening (setting : Setting) (isUnique : Bool) : String :=
  indexOpening (if isUnique then "uix" else "idx") setting.table

/-- Besides the table and the column a generated name takes five bytes. -/
theorem Setting.generatedOpening_size (setting : Setting) (isUnique : Bool) :
    (setting.generatedOpening isUnique).utf8ByteSize = 5 + setting.table.utf8ByteSize := by
  have sizes : "uix".utf8ByteSize = 3 ∧ "idx".utf8ByteSize = 3 ∧ "_".utf8ByteSize = 1 := by decide
  cases isUnique <;>
    simp only [generatedOpening, indexOpening, String.utf8ByteSize_append, sizes, if_true,
      Bool.false_eq_true, if_false] <;> omega

/-- The mapped fields have the columns of the model. -/
theorem map_columnOf_mappedFields (resolved : (resolve naming descriptor).2 = .ok model) :
    (mappedFields descriptor.fields).map (settingOf naming descriptor).columnOf =
      model.columns := by
  rw [Model.columns, ← List.forall₂_eq_eq_eq, List.forall₂_map_left_iff, List.forall₂_map_right_iff]
  exact (enters_of_resolve resolved).imp fun _ _ entered => entered.1.symm

/-- Names that are generated as usual are distinct if none of them has to be cut off. -/
theorem generatesApart_of_fits (resolved : (resolve naming descriptor).2 = .ok model)
    (usual : naming.index = indexName)
    (fits : ∀ isUnique, ∀ field ∈ askers isUnique descriptor.fields,
      5 + (settingOf naming descriptor).table.utf8ByteSize +
        ((settingOf naming descriptor).columnOf field).utf8ByteSize ≤ indexNameLimit) :
    (settingOf naming descriptor).GeneratesApart descriptor.fields := by
  intro isUnique
  have accepted : model.IsAccepted := ⟨naming, descriptor, resolved⟩
  have apart : ((askers isUnique descriptor.fields).map
      (settingOf naming descriptor).columnOf).Nodup :=
    (List.filter_sublist.map _).nodup
      (map_columnOf_mappedFields resolved ▸ accepted.columns_nodup)
  have whole : (askers isUnique descriptor.fields).map
      ((settingOf naming descriptor).generatedIndex isUnique) =
        ((askers isUnique descriptor.fields).map (settingOf naming descriptor).columnOf).map
          ((settingOf naming descriptor).generatedOpening isUnique ++ ·) := by
    rw [List.map_map]
    refine List.map_congr_left fun field member => ?_
    show naming.index _ _ _ = _
    rw [usual]
    refine indexName_of_fits ?_
    have room := fits isUnique field member
    rw [← Setting.generatedOpening_size _ isUnique] at room
    rwa [String.utf8ByteSize_append]
  rw [whole]
  exact apart.map fun _ _ same => (String.append_right_inj _).mp same

/-- Names that are generated as usual over a table that fills the room for them are distinct only if
there is at most one of each sort. -/
theorem generatesApart_of_fills (usual : naming.index = indexName)
    (fills : indexNameLimit ≤ 5 + (settingOf naming descriptor).table.utf8ByteSize) :
    (settingOf naming descriptor).GeneratesApart descriptor.fields ↔
      ∀ isUnique, (askers isUnique descriptor.fields).length ≤ 1 := by
  refine forall_congr' fun isUnique => ?_
  have same : (askers isUnique descriptor.fields).map
      ((settingOf naming descriptor).generatedIndex isUnique) =
        List.replicate (askers isUnique descriptor.fields).length
          (String.ofList (takeBytes indexNameLimit
            ((settingOf naming descriptor).generatedOpening isUnique).toList)) := by
    rw [List.map_eq_replicate_iff]
    intro field _
    show naming.index _ _ _ = _
    rw [usual]
    refine indexName_of_fills ?_
    rw [← Setting.generatedOpening_size _ isUnique] at fills
    exact fills
  rw [same, List.nodup_replicate]

/-- Where no index is named, each one is over the columns of the fields that ask for its sort and
for which its name is generated. So each is over one column, as the fields ask for it, exactly if
the generated names are pairwise distinct for each sort. As usual they are if no name has to be cut
off, and are not if the table alone fills the room and two fields ask for indexes of one sort. -/
theorem unnamed_single_iff (resolved : (resolve naming descriptor).2 = .ok model)
    (unnamed : ∀ field ∈ mappedFields descriptor.fields, field.LeavesUnnamed) :
    (∀ index ∈ model.indexes, index.columns =
      ((askers index.isUnique descriptor.fields).filter fun field =>
        (settingOf naming descriptor).generatedIndex index.isUnique field = index.name).map
          (settingOf naming descriptor).columnOf) ∧
    (model.HasSingleIndexes descriptor.fields ↔
      (settingOf naming descriptor).GeneratesApart descriptor.fields) ∧
    (naming.index = indexName →
      ((∀ isUnique, ∀ field ∈ askers isUnique descriptor.fields,
          5 + (settingOf naming descriptor).table.utf8ByteSize +
            ((settingOf naming descriptor).columnOf field).utf8ByteSize ≤ indexNameLimit) →
        model.HasSingleIndexes descriptor.fields) ∧
      (indexNameLimit ≤ 5 + (settingOf naming descriptor).table.utf8ByteSize →
        (model.HasSingleIndexes descriptor.fields ↔
          ∀ isUnique, (askers isUnique descriptor.fields).length ≤ 1))) := by
  have single : model.HasSingleIndexes descriptor.fields ↔
      (settingOf naming descriptor).GeneratesApart descriptor.fields := by
    rw [← single_iff_generatesApart resolved unnamed]
    exact ⟨Model.HasSingleIndexes.single, hasSingleIndexes_of_single resolved unnamed⟩
  refine ⟨fun index member => ?_, single, fun usual => ⟨fun fits => ?_, fun fills => ?_⟩⟩
  · rw [(follow_of_resolve resolved).columns index member]
    exact rollOf_unnamed unnamed (enters_of_resolve resolved) index.isUnique index.name
  · exact single.mpr (generatesApart_of_fits resolved usual fits)
  · exact single.trans (generatesApart_of_fills usual fills)

/-- A description of two unique columns, each with an index of its own, and of a plain index. -/
def account : RecordDescriptor where
  name := "Account"
  table := none
  fields := [⟨"email", .text, false, "unique"⟩, ⟨"login", .text, false, "uniqueIndex; index"⟩]
  hooks := []

/-- Names that fit are distinct, and each index is over one column. -/
theorem unnamed_single_iff_account :
    ∃ model, (resolve .snakeCasePlural account).2 = .ok model ∧
      (∀ field ∈ mappedFields account.fields, field.LeavesUnnamed) ∧
      NamingStrategy.snakeCasePlural.index = indexName ∧ model.HasSingleIndexes account.fields ∧
      model.indexes = [⟨"uix_accounts_email", true, ["email"]⟩,
        ⟨"idx_accounts_login", false, ["login"]⟩, ⟨"uix_accounts_login", true, ["login"]⟩] := by
  have accepted : ((resolve .snakeCasePlural account).2.toOption.map Model.indexes) =
      some [⟨"uix_accounts_email", true, ["email"]⟩,
        ⟨"idx_accounts_login", false, ["login"]⟩, ⟨"uix_accounts_login", true, ["login"]⟩] := by
    decide +kernel
  obtain ⟨model, found, indexes⟩ := Option.map_eq_some_iff.mp accepted
  rw [Outcome.toOption_eq_some] at found
  have unnamed : ∀ field ∈ mappedFields account.fields, field.LeavesUnnamed := by decide +kernel
  refine ⟨model, found, unnamed, rfl,
    ((unnamed_single_iff found unnamed).2.2 rfl).1 ?_, indexes⟩
  decide +kernel

/-- A description of two unique columns of a table with a long name. -/
def statistic : RecordDescriptor where
  name := "Statistic"
  table := some "quarterly_settlement_reconciliation_statistics_by_subsidiary"
  fields := [⟨"code", .text, false, "unique"⟩, ⟨"label", .text, false, "unique"⟩]
  hooks := []

/-- Two columns that are to be unique each for itself come to share one index, by which only both
together are. -/
theorem statistic_merges :
    ∃ model, (resolve .snakeCasePlural statistic).2 = .ok model ∧
      (∀ field ∈ mappedFields statistic.fields, field.LeavesUnnamed) ∧
      model.indexes = [⟨"uix_quarterly_settlement_reconciliation_statistics_by_subsidiar", true,
        ["code", "label"]⟩] ∧
      ¬ model.HasSingleIndexes statistic.fields := by
  have accepted : ((resolve .snakeCasePlural statistic).2.toOption.map Model.indexes) =
      some [⟨"uix_quarterly_settlement_reconciliation_statistics_by_subsidiar", true,
        ["code", "label"]⟩] := by
    decide +kernel
  obtain ⟨model, found, indexes⟩ := Option.map_eq_some_iff.mp accepted
  rw [Outcome.toOption_eq_some] at found
  refine ⟨model, found, by decide +kernel, indexes, fun apart => ?_⟩
  obtain ⟨column, columns⟩ := apart.single _ (indexes ▸ List.mem_singleton_self _)
  cases columns

end Schema

end RecordMapper
