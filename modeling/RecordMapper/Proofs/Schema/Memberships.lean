/-
This file proves that the indexes of a model and the memberships of its fields agree. A model says
twice which fields an index is over: the index lists columns, and each field lists the names of its
indexes. Both grow while the fields are gone through, the lists of columns by joining an index for
every name that is asked for. One invariant ties them together: an index has the columns of exactly
the fields that are part of it, in their order. Within a field names may be repeated and reach an
index that the field has already joined, so the invariant is first proved for one name, where a
column is entered at most once, and then for a field whose column no earlier field has.
-/

import RecordMapper.Proofs.Schema.Lawful

namespace RecordMapper

/-! ### Memberships -/

/-- The names of the plain or of the unique indexes that a field is part of. -/
def Field.memberships (field : Field) (isUnique : Bool) : List String :=
  if isUnique then field.uniqueIndexes else field.indexes

/-- The columns of the fields that are part of the index of a name and a sort, in their order. -/
def rollOf (fields : List Field) (isUnique : Bool) (name : String) : List String :=
  (fields.filter fun field => name ∈ field.memberships isUnique).map Field.column

/-- The indexes of a model and the memberships of its fields agree. -/
structure Model.IsIndexed (model : Model) : Prop where
  names : (model.indexes.map Index.name).Nodup
  nonempty : ∀ index ∈ model.indexes, index.columns ≠ []
  /-- The columns of an index are columns of the model, in the order of their fields. -/
  ordered : ∀ index ∈ model.indexes, index.columns.Sublist model.columns
  distinct : ∀ index ∈ model.indexes, index.columns.Nodup
  /-- An index has the column of a field if the field is part of it, as one of its sort. -/
  members : ∀ field ∈ model.fields, ∀ index ∈ model.indexes,
    field.column ∈ index.columns ↔ index.name ∈ field.memberships index.isUnique
  /-- No name is that of a plain index to one field and of a unique one to the same or another. -/
  apart : ∀ field ∈ model.fields, ∀ other ∈ model.fields,
    ∀ name ∈ field.memberships false, name ∉ other.memberships true
  /-- Every name that a field has in its lists is that of an index of the sort of the list. -/
  indexed : ∀ field ∈ model.fields, ∀ isUnique, ∀ name ∈ field.memberships isUnique,
    ∃ index ∈ model.indexes, index.name = name ∧ index.isUnique = isUnique

section

variable {fields : List Field} {isUnique : Bool} {name : String}

theorem rollOf_append_singleton (fields : List Field) (field : Field) (isUnique : Bool)
    (name : String) :
    rollOf (fields ++ [field]) isUnique name = rollOf fields isUnique name ++
      if name ∈ field.memberships isUnique then [field.column] else [] := by
  unfold rollOf
  rw [List.filter_append, List.map_append]
  by_cases member : name ∈ field.memberships isUnique
  · simp [member]
  · simp [member]

/-- A roll has columns of fields only, in their order. -/
theorem rollOf_sublist (fields : List Field) (isUnique : Bool) (name : String) :
    (rollOf fields isUnique name).Sublist (fields.map Field.column) :=
  List.filter_sublist.map _

/-- Where columns are distinct, a roll has the column of a field if the field is part of the
index. -/
theorem column_mem_rollOf (columns : (fields.map Field.column).Nodup) {field : Field}
    (member : field ∈ fields) :
    field.column ∈ rollOf fields isUnique name ↔ name ∈ field.memberships isUnique := by
  constructor
  · intro listed
    obtain ⟨other, kept, same⟩ := List.mem_map.mp listed
    obtain ⟨otherMember, joins⟩ := List.mem_filter.mp kept
    rw [← List.inj_on_of_nodup_map columns otherMember member same]
    exact of_decide_eq_true joins
  · intro joins
    exact List.mem_map_of_mem (List.mem_filter.mpr ⟨member, decide_eq_true joins⟩)

/-- Marking the only key changes no roll. -/
theorem rollOf_markSoleKey (fields : List Field) :
    rollOf (Schema.markSoleKey fields) = rollOf fields := by
  funext isUnique name
  -- A roll sees of a field only its memberships and its column.
  have seen (fields : List Field) : rollOf fields isUnique name =
      ((fields.map fun field => (field.memberships isUnique, field.column)).filter
        fun entry => name ∈ entry.1).map Prod.snd := by
    rw [rollOf, List.filter_map, List.map_map]
    rfl
  rw [seen, seen, Schema.map_markSoleKey _ fun _ => rfl]

end

namespace Schema

/-! ### Joining one index -/

/-- Indexes follow a roll, which says for each sort and name which columns have joined: no two
indexes have the same name, each has the columns that have joined it, at least one, and there is
one for all that have joined any. -/
structure Follow (indexes : List Index) (roll : Bool → String → List String) : Prop where
  names : (indexes.map Index.name).Nodup
  columns : ∀ index ∈ indexes, index.columns = roll index.isUnique index.name
  nonempty : ∀ index ∈ indexes, index.columns ≠ []
  complete : ∀ isUnique name, roll isUnique name ≠ [] →
    ∃ index ∈ indexes, index.name = name ∧ index.isUnique = isUnique

/-- A roll once a column has joined the indexes of several names and one sort. -/
def entered (roll : Bool → String → List String) (isUnique : Bool) (column : String)
    (names : List String) (sort : Bool) (name : String) : List String :=
  if sort = isUnique ∧ name ∈ names ∧ column ∉ roll sort name then roll sort name ++ [column]
  else roll sort name

/-- An index once a column has joined the one of a name. -/
def grown (name column : String) (index : Index) : Index :=
  if index.name = name ∧ column ∉ index.columns then
    { index with columns := index.columns ++ [column] }
  else index

section

variable {record name column : String} {isUnique : Bool} {indexes joined : List Index}
  {roll : Bool → String → List String}

@[simp]
theorem grown_name (name column : String) (index : Index) :
    (grown name column index).name = index.name := by
  unfold grown
  split <;> rfl

@[simp]
theorem grown_isUnique (name column : String) (index : Index) :
    (grown name column index).isUnique = index.isUnique := by
  unfold grown
  split <;> rfl

/-- Only indexes of the name grow. -/
theorem map_grown_of_fresh (fresh : ∀ index ∈ indexes, index.name ≠ name) :
    indexes.map (grown name column) = indexes :=
  (List.map_congr_left fun index member => if_neg fun grows => fresh index member grows.1).trans
    (List.map_id indexes)

/-- A column joins the index of a name, which has to be of the right sort, and founds one at the end
if there is none. -/
theorem joins_or_founds (names : (indexes.map Index.name).Nodup)
    (success : joinIndex record name isUnique column indexes = .ok joined) :
    ((∃ index ∈ indexes, index.name = name) ∧
      (∀ index ∈ indexes, index.name = name → index.isUnique = isUnique) ∧
      joined = indexes.map (grown name column)) ∨
    ((∀ index ∈ indexes, index.name ≠ name) ∧
      joined = indexes ++ [⟨name, isUnique, [column]⟩]) := by
  induction indexes generalizing joined with
  | nil =>
    cases success
    exact .inr ⟨List.forall_mem_nil _, rfl⟩
  | cons index rest inductionHypothesis =>
    obtain ⟨apart, others⟩ := List.nodup_cons.mp names
    unfold joinIndex at success
    by_cases same : index.name = name
    · have fresh : ∀ other ∈ rest, other.name ≠ name := fun other member equal =>
        apart (same.trans equal.symm ▸ List.mem_map_of_mem member)
      rw [if_pos same] at success
      by_cases agrees : index.isUnique = isUnique
      · rw [if_pos agrees] at success
        cases success
        refine .inl ⟨⟨index, List.mem_cons_self, same⟩, List.forall_mem_cons.mpr ⟨fun _ => agrees,
          fun other member equal => absurd equal (fresh other member)⟩, ?_⟩
        rw [List.map_cons, map_grown_of_fresh fresh, grown]
        by_cases present : column ∈ index.columns <;> simp [same, present]
      · rw [if_neg agrees] at success
        cases success
    · rw [if_neg same] at success
      obtain ⟨later, joinedLater, rfl⟩ := Outcome.map_eq_ok.mp success
      rcases inductionHypothesis others joinedLater with
        ⟨⟨found, member, named⟩, agree, rfl⟩ | ⟨fresh, rfl⟩
      · refine .inl ⟨⟨found, List.mem_cons_of_mem _ member, named⟩,
          List.forall_mem_cons.mpr ⟨fun equal => absurd equal same, agree⟩, ?_⟩
        rw [List.map_cons, grown, if_neg fun grows => same grows.1]
      · exact .inr ⟨List.forall_mem_cons.mpr ⟨same, fresh⟩, rfl⟩

/-- A name that is not entered has the columns that it had, and so has one of the other sort. -/
theorem entered_of_not {names : List String} {sort : Bool} {other : String}
    (spared : ¬ (sort = isUnique ∧ other ∈ names)) :
    entered roll isUnique column names sort other = roll sort other :=
  if_neg fun enters => spared ⟨enters.1, enters.2.1⟩

/-- An index that has the columns of a roll still has them once a column has joined both. -/
theorem columns_grown {index : Index} (agrees : index.name = name → index.isUnique = isUnique)
    (columns : index.columns = roll index.isUnique index.name) :
    (grown name column index).columns =
      entered roll isUnique column [name] index.isUnique index.name := by
  unfold grown entered
  rw [← columns]
  by_cases same : index.name = name
  · by_cases present : column ∈ index.columns <;> simp [same, present, agrees same]
  · simp [same]

/-- Indexes keep following a roll when a column joins one of them. -/
theorem Follow.joinIndex (follow : Follow indexes roll)
    (success : joinIndex record name isUnique column indexes = .ok joined) :
    Follow joined (entered roll isUnique column [name]) := by
  rcases joins_or_founds follow.names success with
    ⟨⟨found, listed, named⟩, agree, rfl⟩ | ⟨fresh, rfl⟩
  · refine ⟨?_, ?_, ?_, fun sort other entries => ?_⟩
    · simpa [Function.comp_def] using follow.names
    · refine List.forall_mem_map.mpr fun index member => ?_
      rw [columns_grown (agree index member) (follow.columns index member), grown_name,
        grown_isUnique]
    · refine List.forall_mem_map.mpr fun index member => ?_
      unfold grown
      split
      · exact List.append_ne_nil_of_right_ne_nil _ (List.cons_ne_nil _ _)
      · exact follow.nonempty index member
    · have known : ∃ index ∈ indexes, index.name = other ∧ index.isUnique = sort := by
        by_cases enters : sort = isUnique ∧ other ∈ [name]
        · rw [List.mem_singleton.mp enters.2, enters.1]
          exact ⟨found, listed, named, agree found listed named⟩
        · rw [entered_of_not enters] at entries
          exact follow.complete sort other entries
      obtain ⟨index, member, facts⟩ := known
      exact ⟨grown name column index, List.mem_map_of_mem member, by simpa using facts⟩
  · -- No index has the name, so that nothing has joined under it yet.
    have empty : roll isUnique name = [] := by
      by_contra entries
      obtain ⟨index, member, named, -⟩ := follow.complete isUnique name entries
      exact fresh index member named
    refine ⟨?_, List.forall_mem_append.mpr ⟨fun index member => ?_, ?_⟩,
      List.forall_mem_append.mpr ⟨follow.nonempty, by simp⟩, fun sort other entries => ?_⟩
    · rw [List.map_append, List.map_singleton]
      exact List.nodup_append.mpr ⟨follow.names, List.nodup_singleton _, by simpa using fresh⟩
    · rw [entered_of_not (by simp [fresh index member])]
      exact follow.columns index member
    · simp [entered, empty]
    · by_cases enters : sort = isUnique ∧ other ∈ [name]
      · exact ⟨_, List.mem_append_right _ List.mem_cons_self, (List.mem_singleton.mp enters.2).symm,
          enters.1.symm⟩
      · rw [entered_of_not enters] at entries
        obtain ⟨index, member, facts⟩ := follow.complete sort other entries
        exact ⟨index, List.mem_append_left _ member, facts⟩

/-- A column that joins further names of the same sort has in the end joined all of them. -/
theorem entered_entered (name : String) (names : List String) :
    entered (entered roll isUnique column [name]) isUnique column names =
      entered roll isUnique column (name :: names) := by
  funext sort other
  unfold entered
  grind

/-- Indexes keep following a roll when a column joins several of them. -/
theorem Follow.joinIndexes {names : List String} (follow : Follow indexes roll)
    (success : joinIndexes record isUnique column names indexes = .ok joined) :
    Follow joined (entered roll isUnique column names) := by
  induction names generalizing indexes roll with
  | nil =>
    cases success
    have unchanged : entered roll isUnique column [] = roll := by
      funext sort other
      exact entered_of_not (by simp)
    rwa [unchanged]
  | cons name rest inductionHypothesis =>
    unfold Schema.joinIndexes at success
    split at success
    · cases success
    · rename_i middle joinedFirst
      rw [← entered_entered]
      exact inductionHypothesis (follow.joinIndex joinedFirst) success

end

/-! ### Fields -/

/-- The names of the indexes that a field is made part of are those that its tag asks for. -/
theorem Setting.memberships_mapped (setting : Setting) (position : Nat) (field : FieldDescriptor)
    (tag : FieldTag) (size precision scale : Option Nat) (isUnique : Bool) :
    (setting.mapped position field tag size precision scale).memberships isUnique =
      if isUnique then setting.uniqueIndexes tag (setting.column tag field)
      else setting.plainIndexes tag (setting.column tag field) :=
  rfl

/-- The indexes of a draft follow the roll of its fields. -/
theorem Setting.addField_follow {setting : Setting} {draft further : Draft} {position : Nat}
    {field : FieldDescriptor} {tag : FieldTag} (filed : draft.IsFiled)
    (follow : Follow draft.indexes (rollOf draft.fields))
    (added : setting.addField draft position field tag = .ok further) :
    Follow further.indexes (rollOf further.fields) := by
  obtain ⟨size, precision, scale, withPlain, -, -, -, fresh, plain, unique, fieldsEqual, -⟩ :=
    addField_eq_ok.mp added
  have entries := (follow.joinIndexes plain).joinIndexes unique
  have absent (sort : Bool) (name : String) :
      setting.column tag field ∉ rollOf draft.fields sort name := by
    intro listed
    obtain ⟨earlier, member, same⟩ :=
      List.mem_map.mp ((rollOf_sublist draft.fields sort name).subset listed)
    exact filed.fieldByColumn?_eq_none.mp fresh earlier member same
  have grows : rollOf further.fields =
      entered (entered (rollOf draft.fields) false (setting.column tag field)
        (setting.plainIndexes tag (setting.column tag field))) true (setting.column tag field)
        (setting.uniqueIndexes tag (setting.column tag field)) := by
    funext sort name
    rw [fieldsEqual, rollOf_append_singleton, setting.memberships_mapped]
    unfold entered
    cases sort <;> simp [absent, mapped] <;> split <;> simp
  rw [grows]
  exact entries

/-! ### Models -/

variable {naming : NamingStrategy} {descriptor : RecordDescriptor} {model : Model}

/-- The indexes of a model follow the roll of its fields. -/
theorem follow_of_resolve (resolved : (resolve naming descriptor).2 = .ok model) :
    Follow model.indexes (rollOf model.fields) := by
  obtain ⟨finished, added, rfl⟩ := resolve_eq_ok resolved
  have empty : Follow (Draft.indexes {}) (rollOf (Draft.fields {})) :=
    ⟨List.nodup_nil, List.forall_mem_nil _, List.forall_mem_nil _, fun _ _ entries =>
      absurd rfl entries⟩
  show Follow finished.indexes (rollOf (markSoleKey finished.fields))
  rw [rollOf_markSoleKey]
  -- Only of filed fields is it known that a column that is added is new to the roll.
  have preserved : finished.IsFiled ∧ Follow finished.indexes (rollOf finished.fields) := by
    refine Setting.addFields_preserves
      (fun draft => draft.IsFiled ∧ Follow draft.indexes (rollOf draft.fields)) ?_
      ⟨Draft.isFiled_empty, empty⟩ added
    rintro draft further position field tag ⟨filed, follow⟩ added
    exact ⟨Setting.addField_isFiled filed added, Setting.addField_follow filed follow added⟩
  exact preserved.2

/-- Without their places the fields that are not left out are the mapped fields. -/
theorem map_fst_mappedFrom (start : Nat) (fields : List FieldDescriptor) :
    (mappedFrom start fields).map Prod.fst = mappedFields fields := by
  unfold mappedFields
  conv_rhs => rw [← List.zipIdx_map_fst start fields, List.filter_map]
  rfl

/-- A field of a model has the column of a described field and is part of the indexes that this one
asks for. -/
def Setting.Enters (setting : Setting) (described : FieldDescriptor) (field : Field) : Prop :=
  field.column = setting.columnOf described ∧
    ∀ isUnique, field.memberships isUnique = setting.indexesOf isUnique described

/-- The fields of a model are entered as the described fields that are not left out. -/
theorem enters_of_resolve (resolved : (resolve naming descriptor).2 = .ok model) :
    List.Forall₂ (settingOf naming descriptor).Enters (mappedFields descriptor.fields)
      model.fields := by
  obtain ⟨fields, marked, -, maps⟩ := fields_of_resolve resolved
  rw [marked, ← map_fst_mappedFrom 0, List.forall₂_map_left_iff]
  refine (maps_markSoleKey maps).imp ?_
  rintro described - ⟨size, precision, scale, isInlineKey, rfl⟩
  exact ⟨rfl, fun isUnique => rfl⟩

/-- The indexes of a model that a description resolves to agree with the memberships of its
fields. -/
theorem isIndexed_of_resolve (resolved : (resolve naming descriptor).2 = .ok model) :
    model.IsIndexed := by
  have follow := follow_of_resolve resolved
  have accepted : model.IsAccepted := ⟨naming, descriptor, resolved⟩
  have columns : (model.fields.map Field.column).Nodup := accepted.columns_nodup
  have indexed : ∀ field ∈ model.fields, ∀ isUnique, ∀ name ∈ field.memberships isUnique,
      ∃ index ∈ model.indexes, index.name = name ∧ index.isUnique = isUnique :=
    fun field member isUnique name joins => follow.complete isUnique name
      (List.ne_nil_of_mem ((column_mem_rollOf columns member).mpr joins))
  have ordered : ∀ index ∈ model.indexes, index.columns.Sublist model.columns :=
    fun index member => follow.columns index member ▸ rollOf_sublist _ _ _
  refine
    { names := follow.names
      nonempty := follow.nonempty
      ordered := ordered
      distinct := fun index member => (ordered index member).nodup columns
      members := fun field member index listed => ?_
      apart := fun field member other otherMember name plain unique => ?_
      indexed := indexed }
  · rw [follow.columns index listed, column_mem_rollOf columns member]
  · obtain ⟨index, listed, named, isPlain⟩ := indexed field member false name plain
    obtain ⟨twin, twinListed, twinNamed, isUnique⟩ := indexed other otherMember true name unique
    obtain rfl :=
      List.inj_on_of_nodup_map follow.names listed twinListed (named.trans twinNamed.symm)
    rw [isPlain] at isUnique
    cases isUnique

/-- The indexes of a model and the memberships of its fields agree, and the fields are part of the
indexes that the description asks for. -/
theorem model_isIndexed (resolved : (resolve naming descriptor).2 = .ok model) :
    model.IsIndexed ∧ List.Forall₂ (settingOf naming descriptor).Enters
      (mappedFields descriptor.fields) model.fields :=
  ⟨isIndexed_of_resolve resolved, enters_of_resolve resolved⟩

/-- A description of a shared index, of a unique column that asks for its index twice over, and of a
plain index that is asked for twice. -/
def article : RecordDescriptor where
  name := "Article"
  table := none
  fields := [⟨"site", .text, false, "uniqueIndex:uix_site_slug"⟩,
    ⟨"slug", .text, false, "unique; uniqueIndex:uix_site_slug; uniqueIndex"⟩,
    ⟨"draft", .text, false, "-"⟩, ⟨"topic", .text, true, "index; index:idx_articles_topic"⟩]
  hooks := []

/-- An index that a field asks for more than once has its column once. -/
theorem model_isIndexed_article :
    ∃ model, (resolve .snakeCasePlural article).2 = .ok model ∧ model.IsIndexed ∧
      model.indexes = [⟨"uix_site_slug", true, ["site", "slug"]⟩,
        ⟨"uix_articles_slug", true, ["slug"]⟩, ⟨"idx_articles_topic", false, ["topic"]⟩] ∧
      (model.field? "slug").map (Field.memberships · true) =
        some ["uix_articles_slug", "uix_site_slug", "uix_articles_slug"] := by
  have accepted : ((resolve .snakeCasePlural article).2.toOption.map fun model =>
      (model.indexes, (model.field? "slug").map (Field.memberships · true))) =
        some ([⟨"uix_site_slug", true, ["site", "slug"]⟩,
          ⟨"uix_articles_slug", true, ["slug"]⟩, ⟨"idx_articles_topic", false, ["topic"]⟩],
          some ["uix_articles_slug", "uix_site_slug", "uix_articles_slug"]) := by
    decide +kernel
  obtain ⟨model, found, looked⟩ := Option.map_eq_some_iff.mp accepted
  rw [Outcome.toOption_eq_some] at found
  obtain ⟨indexes, memberships⟩ := Prod.mk.inj looked
  exact ⟨model, found, (model_isIndexed found).1, indexes, memberships⟩

end Schema

end RecordMapper
