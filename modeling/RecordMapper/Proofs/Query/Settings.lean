/-
This file says which columns a change sets. The statement of a change lists one setting for every
entry of the changes that names a field and no key. An entry can name a field by its column or by
its own name, and entries differ in their names only, so two of them can name one field; its column
is then set twice. Where no two entries name one field, every column is set once.
-/

import Mathlib.Data.List.Pairwise
import RecordMapper.Proofs.Query.KeyedWrites
import RecordMapper.Proofs.Query.SameShape
import RecordMapper.Proofs.Schema.WellFormed
import RecordMapper.Proofs.Statement.Listed

namespace RecordMapper

open Operation Query

variable {query : Query} {model : Model} {entries : List (String × Value)}
  {assigned : List Assignment}

/-! ### The statement of a change -/

/-- A statement changes rows of a model's table: it sets the column of each assignment to its value,
in their order, under conditions. -/
structure IsChange (query : Query) (model : Model) (assigned : List Assignment)
    (statement : Statement) : Prop where
  sql : ∃ clause, statement.sql = "UPDATE " ++ query.dialect.quote model.table ++ " SET " ++
    ", ".intercalate (equations query.dialect (assigned.map Prod.fst)) ++ " WHERE " ++ clause
  arguments : ∃ bound, statement.arguments =
    (assigned.map fun assignment => (assignment.2, assignment.1.kind)) ++ bound

/-- What a change begins with names the table and lists the settings. -/
theorem written_changeBeginning :
    written query.dialect 0 (changeBeginning query model assigned) =
      "UPDATE " ++ query.dialect.quote model.table ++ " SET " ++
        ", ".intercalate (equations query.dialect (assigned.map Prod.fst)) := by
  rw [← written_equations query.dialect ", " Prod.fst Prod.snd assigned]
  rfl

/-- What a change begins with has the values that are assigned. -/
theorem supplied_changeBeginning :
    supplied (changeBeginning query model assigned) =
      assigned.map fun assignment => (assignment.2, assignment.1.kind) :=
  supplied_equations query.dialect ", " Prod.fst Prod.snd assigned

/-- Under at least one filter, the statement that is built for assignments is their change. -/
theorem isChange_of_updateStatement {filters : List Filter} {statement : Statement}
    (nonempty : filters ≠ [])
    (built : updateStatement model query.dialect assigned filters = .ok statement) :
    IsChange query model assigned statement := by
  obtain ⟨found, carried, rfl⟩ := Outcome.map_eq_ok.mp built
  have filtered : found ≠ [] := by
    rintro rfl
    exact nonempty (List.forall₂_nil_right_iff.mp (Outcome.mapM_eq_ok.mp carried))
  have clause : whereFragments query.dialect found = .text " WHERE " ::
      separated " AND " (found.map (Condition.fragments query.dialect)) := by
    rw [whereFragments, if_neg (by simpa using filtered)]
  show IsChange query model assigned (Statement.ofFragments query.dialect
    (changeBeginning query model assigned ++ whereFragments query.dialect found))
  rw [ofFragments_eq, written_append, written_changeBeginning, supplied_append,
    supplied_changeBeginning, clause, written, ← String.append_assoc]
  exact ⟨⟨_, rfl⟩, ⟨_, rfl⟩⟩

/-- The statement that is built under the filters of a record's keys and those of the query is a
change. -/
theorem isChange_of_changeFilters {record : Record} {keys : List Filter} {statement : Statement}
    (pinned : changeFilters model record = .ok keys)
    (built : updateStatement model query.dialect assigned (keys ++ query.filters) = .ok statement) :
    IsChange query model assigned statement := by
  obtain ⟨⟨key, member, -⟩, rfl⟩ := changeFilters_eq_ok.mp pinned
  refine isChange_of_updateStatement (List.append_ne_nil_of_left_ne_nil ?_ _) built
  simpa using List.ne_nil_of_mem member

/-! ### Names of fields -/

/-- Two entries do not name the same field, unless it is a key. -/
def NameApart (model : Model) (one other : String × Value) : Prop :=
  ∀ field, model.resolve? one.1 = some field → model.resolve? other.1 = some field →
    field.isPrimaryKey = true

instance : Std.Symm (NameApart model) :=
  ⟨fun _ _ apart field first second => apart field second first⟩

/-- No two entries name the same field, unless it is a key. -/
def NamesApart (model : Model) (entries : List (String × Value)) : Prop :=
  entries.Pairwise (NameApart model)

/-- Entries name a field that is no key twice: by its column and by its own name, which is not the
column and leads to the field as well. -/
structure IsNamedTwice (model : Model) (entries : List (String × Value)) (field : Field) :
    Prop where
  member : field ∈ model.fields
  notKey : field.isPrimaryKey = false
  apart : field.column ≠ field.name
  answers : model.resolve? field.name = some field
  byColumn : field.column ∈ entries.map Prod.fst
  byName : field.name ∈ entries.map Prod.fst

/-- What names a field of an accepted model is its column or its name. -/
theorem column_or_name_of_resolve? (accepted : model.IsAccepted) {key : String} {field : Field}
    (resolved : model.resolve? key = some field) : field.column = key ∨ field.name = key := by
  unfold Model.resolve? at resolved
  split at resolved
  · rename_i found
    cases resolved
    exact .inl (accepted.isFiled.fieldByColumn?_eq_some.mp found).2
  · rcases accepted.isFiled.field?_cases key with ⟨other, found, -, name⟩ | ⟨absent, -⟩
    · rw [resolved] at found
      cases found
      exact .inr name
    · rw [resolved] at absent
      cases absent

/-- What can be set is distinct, by whatever tells the fields of the model apart, exactly if no two
entries name the same field. -/
theorem nodup_settable_iff {Mark : Type} {mark : Field → Mark}
    (marks : (model.fields.map mark).Nodup) :
    ((settable model entries).map fun given => mark given.1).Nodup ↔ NamesApart model entries := by
  rw [settable, List.Nodup, List.pairwise_map, List.pairwise_filterMap]
  refine List.Pairwise.iff @fun one other => ⟨fun apart field first second => ?_, ?_⟩
  · by_contra notKey
    refine apart (field, one.2) ?_ (field, other.2) ?_ rfl
    · simp [first, notKey]
    · simp [second, notKey]
  · intro apart given listed another listedAgain same
    obtain ⟨field, first, kept⟩ := Option.bind_eq_some_iff.mp listed
    obtain ⟨otherField, second, keptAgain⟩ := Option.bind_eq_some_iff.mp listedAgain
    split at kept
    · cases kept
    rename_i notKey
    split at keptAgain
    · cases keptAgain
    cases kept
    cases keptAgain
    obtain rfl : field = otherField := List.inj_on_of_nodup_map marks
      (Model.mem_of_resolve? first) (Model.mem_of_resolve? second) same
    exact notKey (apart field first second)

/-- What is assigned has the marks of what can be set. -/
theorem marks_of_assigns {Mark : Type} (mark : Field → Mark) {given : List (Field × Value)}
    (assigns : List.Forall₂ Assigns given assigned) :
    (assigned.map fun assignment => mark assignment.1) = given.map fun each => mark each.1 := by
  have fields := congrArg (List.map mark) (map_fst_of_assigns assigns)
  rwa [List.map_map, List.map_map] at fields

/-- Entries that are named differently name a field twice only by its column and its own name. -/
theorem namesApart_iff (accepted : model.IsAccepted) (distinct : (entries.map Prod.fst).Nodup) :
    NamesApart model entries ↔ ¬ ∃ field, IsNamedTwice model entries field := by
  constructor
  · rintro apart ⟨field, twice⟩
    obtain ⟨one, oneListed, byColumn⟩ := List.mem_map.mp twice.byColumn
    obtain ⟨other, otherListed, byName⟩ := List.mem_map.mp twice.byName
    have different : one ≠ other := by
      rintro rfl
      exact twice.apart (byColumn.symm.trans byName)
    have isKey := List.Pairwise.forall apart oneListed otherListed different field
      (byColumn ▸ accepted.resolve?_column twice.member) (byName ▸ twice.answers)
    rw [twice.notKey] at isKey
    cases isKey
  · intro once
    refine (List.Nodup.of_map _ distinct).pairwise_of_forall_ne ?_
    intro one oneListed other otherListed different field first second
    have apart : one.1 ≠ other.1 := fun same =>
      different (List.inj_on_of_nodup_map distinct oneListed otherListed same)
    have oneNamed := List.mem_map_of_mem (f := Prod.fst) oneListed
    have otherNamed := List.mem_map_of_mem (f := Prod.fst) otherListed
    by_contra notKey
    have member := Model.mem_of_resolve? first
    rw [Bool.not_eq_true] at notKey
    rcases column_or_name_of_resolve? accepted first with column | name <;>
      rcases column_or_name_of_resolve? accepted second with columnAgain | nameAgain
    · exact apart (column.symm.trans columnAgain)
    · exact once ⟨field, member, notKey, by rwa [column, nameAgain], by rwa [nameAgain],
        by rwa [column], by rwa [nameAgain]⟩
    · exact once ⟨field, member, notKey, by rw [columnAgain, name]; exact apart.symm,
        by rwa [name], by rwa [columnAgain], by rwa [name]⟩
    · exact apart (name.symm.trans nameAgain)

/-! ### Changes that are sent -/

section

variable {State : Type} {environment : Environment State} {state : State} {record : Record}

/-- A change that does not refuse sends the one statement that sets what its changes, as the hook
leaves them, assign. -/
theorem refuses_or_isChange_of_updates (changes : Changes) :
    Refuses environment state (query.updates changes) record ∨
      ∃ model assigned statement, query.model = .ok model ∧
        statements ((query.updates changes record).exchanges environment state) = [statement] ∧
        IsChange query model assigned statement ∧
        List.Forall₂ Assigns (settable model (changesLeft .beforeUpdate changes
          ((query.updates changes record).exchanges environment state)).entries) assigned := by
  rcases runs_updates (Program.runs_exchanges environment _ state) with
    refused | ⟨model, keys, assigned, statement, prepared, pinned, assigns, built, sent⟩
  · exact .inl refused
  exact .inr ⟨model, assigned, statement, model_of_prepare prepared, sent,
    isChange_of_changeFilters pinned built, assigns⟩

end

/-- The statement of a change sets what the changes, as the hook leaves them, assign. A column is
set twice exactly if two of them name its field, which of changes with distinct names are the two
names that the field has. -/
theorem Query.updates_sets (query : Query)
    (accepted : ∀ model, query.model = .ok model → model.IsAccepted) (record : Record)
    (changes : Changes) {State : Type} (environment : Environment State) (state : State) :
    Refuses environment state (query.updates changes) record ∨
      ∃ model assigned statement entries, query.model = .ok model ∧
        statements ((query.updates changes record).exchanges environment state) = [statement] ∧
        IsChange query model assigned statement ∧
        entries = (changesLeft .beforeUpdate changes
          ((query.updates changes record).exchanges environment state)).entries ∧
        List.Forall₂ Assigns (settable model entries) assigned ∧
        ((assigned.map fun assignment => assignment.1.column).Nodup ↔ NamesApart model entries) ∧
        ((entries.map Prod.fst).Nodup →
          (NamesApart model entries ↔ ¬ ∃ field, IsNamedTwice model entries field)) := by
  rcases refuses_or_isChange_of_updates changes with
    refused | ⟨model, assigned, statement, found, sent, change, assigns⟩
  · exact .inl refused
  refine .inr ⟨model, assigned, statement, _, found, sent, change, rfl, assigns, ?_,
    namesApart_iff (accepted model found)⟩
  rw [marks_of_assigns Field.column assigns]
  exact nodup_settable_iff (accepted model found).columns_nodup

/-! ### Changes of bunks -/

namespace Query

/-- A record type with a field whose column is not called as the field. -/
def bunk : RecordType where
  identity := 0
  name := "Bunk"
  table := none
  fields := [⟨"id", .typed ⟨.integer .int64, false⟩, "primaryKey"⟩,
    ⟨"guest", .typed ⟨.string, true⟩, ""⟩,
    ⟨"berth", .typed ⟨.integer .int32, false⟩, "column:place"⟩]
  hooks := []
  answers := []

/-- The query on all bunks. -/
def bunks : Query where
  dialect := .postgres
  type := bunk
  model := (Schema.resolve .snakeCasePlural bunk.descriptor).2

theorem bunks_accepted (model : Model) (found : bunks.model = .ok model) : model.IsAccepted :=
  ⟨.snakeCasePlural, bunk.descriptor, found⟩

/-- Changes that name the berth of a bunk by its field and by its column. -/
def renumbered : Changes :=
  ⟨[("berth", .int 4), ("place", .int 5)]⟩

/-- Changes that name two fields of a bunk once each, one by its name and one by its column. -/
def reserved : Changes :=
  ⟨[("guest", .text "Ada"), ("place", .int 4)]⟩

/-- A column that is named by its field as well is set twice in one statement. -/
theorem renumbered_set_twice :
    statements ((bunks.updates renumbered [.bigInt 1, .null, .int 3]).exchanges .empty ()) =
      [⟨"UPDATE \"bunks\" SET \"place\" = $1, \"place\" = $2 WHERE \"id\" = $3",
        [(.int 4, .int), (.int 5, .int), (.bigInt 1, .bigInt)]⟩] ∧
    ¬ ∀ (query : Query) (record : Record) (changes : Changes) (model : Model)
        (assigned : List Assignment) (statement : Statement),
      query.model = .ok model → model.IsAccepted → (changes.entries.map Prod.fst).Nodup →
      statements ((query.updates changes record).exchanges .empty ()) = [statement] →
      IsChange query model assigned statement →
        (assigned.map fun assignment => assignment.1.column).Nodup := by
  have sent :
      statements ((bunks.updates renumbered [.bigInt 1, .null, .int 3]).exchanges .empty ()) =
      [⟨"UPDATE \"bunks\" SET \"place\" = $1, \"place\" = $2 WHERE \"id\" = $3",
        [(.int 4, .int), (.int 5, .int), (.bigInt 1, .bigInt)]⟩] := by decide +kernel
  refine ⟨sent, fun once => ?_⟩
  rcases refuses_or_isChange_of_updates renumbered with
    refused | ⟨model, assigned, statement, found, sentOne, change, assigns⟩
  · rw [refused.1] at sent
    cases sent
  have distinct := once bunks _ renumbered model assigned statement found
    (bunks_accepted model found) (by decide) sentOne change
  have unhooked : (changesLeft .beforeUpdate renumbered
      ((bunks.updates renumbered [.bigInt 1, .null, .int 3]).exchanges .empty ())).entries =
        renumbered.entries := by decide +kernel
  have looked : (bunks.model.toOption.map fun model =>
      (settable model renumbered.entries).map fun given => given.1.column) =
        some ["place", "place"] := by decide +kernel
  rw [found] at looked
  have columns : ((settable model renumbered.entries).map fun given => given.1.column) =
      ["place", "place"] := Option.some.inj looked
  rw [marks_of_assigns Field.column assigns, unhooked, columns] at distinct
  exact absurd distinct (by decide)

/-- A change that names each of its fields once sets each column once. -/
theorem updates_sets_reserved :
    (∀ model, bunks.model = .ok model → model.IsAccepted) ∧
      statements ((bunks.updates reserved [.bigInt 1, .null, .int 3]).exchanges .empty ()) =
        [⟨"UPDATE \"bunks\" SET \"guest\" = $1, \"place\" = $2 WHERE \"id\" = $3",
          [(.text "Ada", .text), (.int 4, .int), (.bigInt 1, .bigInt)]⟩] ∧
      ∃ model assigned statement, bunks.model = .ok model ∧
        IsChange bunks model assigned statement ∧
        statements ((bunks.updates reserved [.bigInt 1, .null, .int 3]).exchanges .empty ()) =
          [statement] := by
  have sent : statements ((bunks.updates reserved [.bigInt 1, .null, .int 3]).exchanges .empty ()) =
      [⟨"UPDATE \"bunks\" SET \"guest\" = $1, \"place\" = $2 WHERE \"id\" = $3",
        [(.text "Ada", .text), (.int 4, .int), (.bigInt 1, .bigInt)]⟩] := by decide +kernel
  refine ⟨bunks_accepted, sent, ?_⟩
  rcases bunks.updates_sets bunks_accepted [.bigInt 1, .null, .int 3] reserved .empty () with
    refused | ⟨model, assigned, statement, -, found, sentOne, change, -⟩
  · rw [refused.1] at sent
    cases sent
  · exact ⟨model, assigned, statement, found, change, sentOne⟩

end Query

end RecordMapper
