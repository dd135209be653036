/-
This file says when the indexes of two records over different tables come to have one name. A name
that is generated for an index consists of its sort, its table and its column, with underscores in
between; but tables and columns have underscores of their own. So where one table continues the
other behind an underscore, and a column of the other table begins with what the one has more, the
two put together read the same. Products that keep the indexes of all tables under their names then
pass over the second one, as it is only created if there is none of the name. In no other case do
two names agree.
-/

import RecordMapper.Dialect.Sqlite
import RecordMapper.Migration.Table
import RecordMapper.Proofs.Schema.BareIndexes

namespace RecordMapper

open RecordMapper.Naming

/-! ### Tables and columns put together -/

/-- A table continues another one behind an underscore, and a column of the other table is the
continuation, an underscore and a column of the one. -/
def RunsOver (table column other counterpart : String) : Prop :=
  ∃ middle, other = table ++ "_" ++ middle ∧ column = middle ++ "_" ++ counterpart

section

variable {table column other counterpart : String}

theorem RunsOver.joined_eq (runs : RunsOver table column other counterpart) :
    table ++ "_" ++ column = other ++ "_" ++ counterpart := by
  obtain ⟨middle, rfl, rfl⟩ := runs
  simp only [String.append_assoc]

/-- Of two tables that read the same with a column behind an underscore, the one continues the other
if what it has more is not nothing. -/
theorem runsOver_of_toList_eq {more : List Char} (apart : table ≠ other)
    (continues : other.toList = table.toList ++ more)
    (rest : '_' :: column.toList = more ++ '_' :: counterpart.toList) :
    RunsOver table column other counterpart := by
  cases more with
  | nil => exact absurd (String.toList_inj.mp (by rw [continues, List.append_nil])) apart
  | cons character middle =>
    obtain ⟨rfl, behind⟩ := List.cons.inj rest
    refine ⟨String.ofList middle, String.toList_inj.mp ?_, String.toList_inj.mp ?_⟩
    · simpa using continues
    · simpa using behind

/-- Different tables read the same with a column behind an underscore exactly if one of them runs
over. -/
theorem joined_eq_iff (apart : table ≠ other) :
    table ++ "_" ++ column = other ++ "_" ++ counterpart ↔
      RunsOver table column other counterpart ∨ RunsOver other counterpart table column := by
  constructor
  · intro same
    have listed : table.toList ++ '_' :: column.toList =
        other.toList ++ '_' :: counterpart.toList := by
      simpa using congrArg String.toList same
    rcases List.append_eq_append_iff.mp listed with
      ⟨more, continues, rest⟩ | ⟨more, continues, rest⟩
    · exact .inl (runsOver_of_toList_eq apart continues rest)
    · exact .inr (runsOver_of_toList_eq apart.symm continues rest)
  · rintro (runs | runs)
    · exact runs.joined_eq
    · exact runs.joined_eq.symm

/-- The name of an index of a sort over the column of a table, with nothing cut off. -/
def wholeName (isUnique : Bool) (table column : String) : String :=
  indexOpening (if isUnique then "uix" else "idx") table ++ column

/-- Names say the sort before the first underscore. -/
theorem wholeName_eq_iff {isUnique isUniqueToo : Bool} :
    wholeName isUnique table column = wholeName isUniqueToo other counterpart ↔
      isUnique = isUniqueToo ∧ table ++ "_" ++ column = other ++ "_" ++ counterpart := by
  have parts (lead table column : String) :
      indexOpening lead table ++ column = lead ++ ("_" ++ (table ++ "_" ++ column)) := by
    simp only [indexOpening, String.append_assoc]
  simp only [wholeName, parts]
  constructor
  · intro same
    have first := congrArg (fun name : String => name.toList.head?) same
    have sort : isUnique = isUniqueToo := by
      cases isUnique <;> cases isUniqueToo <;> simp [String.toList_append] at first ⊢
    subst sort
    exact ⟨rfl, (String.append_right_inj _).mp ((String.append_right_inj _).mp same)⟩
  · rintro ⟨rfl, same⟩
    rw [same]

end

namespace Schema

/-! ### Generated names -/

/-- A model of a description that leaves it to the usual strategy to name its indexes, all the names
being short enough to be kept whole. -/
structure NamesWhole (naming : NamingStrategy) (descriptor : RecordDescriptor) (model : Model) :
    Prop where
  resolved : (resolve naming descriptor).2 = .ok model
  usual : naming.index = indexName
  unnamed : ∀ field ∈ mappedFields descriptor.fields, field.LeavesUnnamed
  fits : ∀ isUnique, ∀ field ∈ askers isUnique descriptor.fields,
    (wholeName isUnique model.table
      ((settingOf naming descriptor).columnOf field)).utf8ByteSize ≤ indexNameLimit

section

variable {naming namingToo : NamingStrategy} {descriptor descriptorToo : RecordDescriptor}
  {model other : Model} {index counterpart : Index}

theorem table_of_resolve (resolved : (resolve naming descriptor).2 = .ok model) :
    (settingOf naming descriptor).table = model.table := by
  obtain ⟨finished, -, rfl⟩ := resolve_eq_ok resolved
  rfl

/-- What is generated for a field is kept whole. -/
theorem NamesWhole.generatedIndex_eq (whole : NamesWhole naming descriptor model) {isUnique : Bool}
    {field : FieldDescriptor} (asks : field ∈ askers isUnique descriptor.fields) :
    (settingOf naming descriptor).generatedIndex isUnique field =
      wholeName isUnique model.table ((settingOf naming descriptor).columnOf field) := by
  show naming.index _ (settingOf naming descriptor).table _ = _
  rw [whole.usual, table_of_resolve whole.resolved]
  exact indexName_of_fits (whole.fits isUnique field asks)

/-- An index has one column, and its name says its sort, the table and the column. -/
theorem NamesWhole.index_cases (whole : NamesWhole naming descriptor model)
    (member : index ∈ model.indexes) :
    ∃ column, index.columns = [column] ∧
      index.name = wholeName index.isUnique model.table column := by
  have apart : (settingOf naming descriptor).GeneratesApart descriptor.fields := by
    refine generatesApart_of_fits whole.resolved whole.usual fun isUnique field asks => ?_
    have fits := whole.fits isUnique field asks
    rwa [wholeName, ← table_of_resolve whole.resolved, String.utf8ByteSize_append,
      ← Setting.generatedOpening, Setting.generatedOpening_size] at fits
  obtain ⟨column, columns⟩ :=
    (single_iff_generatesApart whole.resolved whole.unnamed).mpr apart index member
  have listed : column ∈ rollOf model.fields index.isUnique index.name := by
    rw [← (follow_of_resolve whole.resolved).columns index member, columns]
    exact List.mem_singleton_self column
  rw [rollOf_unnamed whole.unnamed (enters_of_resolve whole.resolved)] at listed
  obtain ⟨field, kept, rfl⟩ := List.mem_map.mp listed
  obtain ⟨asks, named⟩ := List.mem_filter.mp kept
  exact ⟨_, columns, (of_decide_eq_true named).symm.trans (whole.generatedIndex_eq asks)⟩

/-- Indexes over different tables have one name exactly if they are of one sort and one table runs
over into the other with their columns. -/
theorem name_eq_iff (whole : NamesWhole naming descriptor model)
    (wholeToo : NamesWhole namingToo descriptorToo other) (apart : model.table ≠ other.table)
    (member : index ∈ model.indexes) (memberToo : counterpart ∈ other.indexes) :
    index.name = counterpart.name ↔ index.isUnique = counterpart.isUnique ∧
      ∃ column columnToo, index.columns = [column] ∧ counterpart.columns = [columnToo] ∧
        (RunsOver model.table column other.table columnToo ∨
          RunsOver other.table columnToo model.table column) := by
  obtain ⟨column, columns, name⟩ := whole.index_cases member
  obtain ⟨columnToo, columnsToo, nameToo⟩ := wholeToo.index_cases memberToo
  rw [name, nameToo, wholeName_eq_iff, joined_eq_iff apart, columns, columnsToo]
  refine and_congr_right fun _ => ⟨fun runs => ⟨column, columnToo, rfl, rfl, runs⟩, ?_⟩
  rintro ⟨_, _, same, sameToo, runs⟩
  rwa [List.singleton_inj.mp same, List.singleton_inj.mp sameToo]

/-- Generated names that are kept whole are those of two indexes over different tables exactly if the
indexes are of one sort, one table continues the other behind an underscore, and the column of the
other table is the continuation, an underscore and the column of the one. So they differ where
neither table continues the other in this way, and where no column of an index has an underscore. -/
theorem sharedNames_iff (whole : NamesWhole naming descriptor model)
    (wholeToo : NamesWhole namingToo descriptorToo other) (apart : model.table ≠ other.table) :
    (∀ index ∈ model.indexes, ∀ counterpart ∈ other.indexes,
      index.name = counterpart.name ↔ index.isUnique = counterpart.isUnique ∧
        ∃ column columnToo, index.columns = [column] ∧ counterpart.columns = [columnToo] ∧
          (RunsOver model.table column other.table columnToo ∨
            RunsOver other.table columnToo model.table column)) ∧
    ((∀ more, other.table ≠ model.table ++ "_" ++ more ∧ model.table ≠ other.table ++ "_" ++ more) →
      ∀ index ∈ model.indexes, ∀ counterpart ∈ other.indexes, index.name ≠ counterpart.name) ∧
    ((∀ index ∈ model.indexes ++ other.indexes, ∀ column ∈ index.columns, '_' ∉ column.toList) →
      ∀ index ∈ model.indexes, ∀ counterpart ∈ other.indexes, index.name ≠ counterpart.name) := by
  refine ⟨fun index member counterpart memberToo => name_eq_iff whole wholeToo apart member memberToo,
    fun ends index member counterpart memberToo same => ?_,
    fun plain index member counterpart memberToo same => ?_⟩
  · obtain ⟨-, column, columnToo, -, -, ⟨more, continues, -⟩ | ⟨more, continues, -⟩⟩ :=
      (name_eq_iff whole wholeToo apart member memberToo).mp same
    · exact (ends more).1 continues
    · exact (ends more).2 continues
  · obtain ⟨-, column, columnToo, columns, columnsToo, runs⟩ :=
      (name_eq_iff whole wholeToo apart member memberToo).mp same
    have underscored {middle rest : String} : '_' ∈ (middle ++ "_" ++ rest).toList := by
      simp
    rcases runs with ⟨middle, -, rfl⟩ | ⟨middle, -, rfl⟩
    · exact plain index (List.mem_append_left _ member) _ (columns ▸ List.mem_singleton_self _)
        underscored
    · exact plain counterpart (List.mem_append_right _ memberToo) _
        (columnsToo ▸ List.mem_singleton_self _) underscored

end

/-! ### Orders and their items -/

/-- A description of orders, each with a code for its items. -/
def order : RecordDescriptor where
  name := "Order"
  table := none
  fields := [⟨"id", .bigInt, false, "primaryKey"⟩, ⟨"items_code", .text, false, "unique"⟩]
  hooks := []

/-- A description of the items of orders, each with a code. -/
def ordersItem : RecordDescriptor where
  name := "OrdersItem"
  table := none
  fields := [⟨"id", .bigInt, false, "primaryKey"⟩, ⟨"code", .text, false, "unique"⟩]
  hooks := []

/-- Names are kept whole in the model that a description resolves to if they are for its table. -/
theorem exists_namesWhole {descriptor : RecordDescriptor} {table : String} {indexes : List Index}
    (accepted : ((resolve .snakeCasePlural descriptor).2.toOption.map fun model =>
      (model.table, model.indexes)) = some (table, indexes))
    (unnamed : ∀ field ∈ mappedFields descriptor.fields, field.LeavesUnnamed)
    (fits : ∀ isUnique, ∀ field ∈ askers isUnique descriptor.fields,
      (wholeName isUnique table
        ((settingOf .snakeCasePlural descriptor).columnOf field)).utf8ByteSize ≤ indexNameLimit) :
    ∃ model, NamesWhole .snakeCasePlural descriptor model ∧ model.table = table ∧
      model.indexes = indexes := by
  obtain ⟨model, found, looked⟩ := Option.map_eq_some_iff.mp accepted
  rw [Outcome.toOption_eq_some] at found
  obtain ⟨rfl, rfl⟩ := Prod.mk.inj looked
  exact ⟨model, ⟨found, rfl, unnamed, fits⟩, rfl, rfl⟩

theorem order_namesWhole : ∃ model, NamesWhole .snakeCasePlural order model ∧
    model.table = "orders" ∧
    model.indexes = [⟨"uix_orders_items_code", true, ["items_code"]⟩] :=
  exists_namesWhole (by decide +kernel) (by decide +kernel) (by decide +kernel)

/-- Names differ over tables of which neither continues the other. -/
theorem sharedNames_iff_account :
    ∃ model other, NamesWhole .snakeCasePlural order model ∧
      NamesWhole .snakeCasePlural account other ∧ model.table ≠ other.table ∧
      (model.indexes ≠ [] ∧ other.indexes ≠ []) ∧
      ∀ index ∈ model.indexes, ∀ counterpart ∈ other.indexes, index.name ≠ counterpart.name := by
  obtain ⟨model, whole, table, indexes⟩ := order_namesWhole
  have accepted : ∃ other, NamesWhole .snakeCasePlural account other ∧ other.table = "accounts" ∧
      other.indexes = [⟨"uix_accounts_email", true, ["email"]⟩,
        ⟨"idx_accounts_login", false, ["login"]⟩, ⟨"uix_accounts_login", true, ["login"]⟩] :=
    exists_namesWhole (by decide +kernel) (by decide +kernel) (by decide +kernel)
  obtain ⟨other, wholeToo, tableToo, indexesToo⟩ := accepted
  have apart : model.table ≠ other.table := by
    rw [table, tableToo]
    decide
  have ends (more : String) :
      other.table ≠ model.table ++ "_" ++ more ∧ model.table ≠ other.table ++ "_" ++ more := by
    rw [table, tableToo]
    constructor <;> intro same
    · simpa using congrArg (fun text : String => text.toList.head?) same
    · simpa using congrArg (fun text : String => text.toList.head?) same
  refine ⟨model, other, whole, wholeToo, apart, ⟨by simp [indexes], by simp [indexesToo]⟩,
    (sharedNames_iff whole wholeToo apart).2.1 ends⟩

/-- Orders and their items have different tables, but one name for two unique indexes, so that the
statement for the second one comes to nothing wherever the first one is. -/
theorem ordersItem_namedAlike :
    ∃ model other, NamesWhole .snakeCasePlural order model ∧
      NamesWhole .snakeCasePlural ordersItem other ∧ model.table ≠ other.table ∧
      ∃ index ∈ model.indexes, ∃ counterpart ∈ other.indexes, index.name = counterpart.name ∧
        indexStatement model .sqlite index = "CREATE UNIQUE INDEX IF NOT EXISTS " ++
          "\"uix_orders_items_code\" ON \"orders\" (\"items_code\")" ∧
        indexStatement other .sqlite counterpart = "CREATE UNIQUE INDEX IF NOT EXISTS " ++
          "\"uix_orders_items_code\" ON \"orders_items\" (\"code\")" := by
  obtain ⟨model, whole, table, indexes⟩ := order_namesWhole
  have accepted : ∃ other, NamesWhole .snakeCasePlural ordersItem other ∧
      other.table = "orders_items" ∧
      other.indexes = [⟨"uix_orders_items_code", true, ["code"]⟩] :=
    exists_namesWhole (by decide +kernel) (by decide +kernel) (by decide +kernel)
  obtain ⟨other, wholeToo, tableToo, indexesToo⟩ := accepted
  have apart : model.table ≠ other.table := by
    rw [table, tableToo]
    decide
  refine ⟨model, other, whole, wholeToo, apart, ?_⟩
  rw [indexes, indexesToo]
  refine ⟨_, List.mem_singleton_self _, _, List.mem_singleton_self _, rfl, ?_, ?_⟩
  · rw [indexStatement, table]
    decide +kernel
  · rw [indexStatement, tableToo]
    decide +kernel

end Schema

end RecordMapper
