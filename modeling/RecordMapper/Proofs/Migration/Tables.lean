/-
This file proves that the statements that create a table declare each key and each index once. A
field that is the only key is declared as such in its own column; several keys are declared together
behind the columns. An index stands in the table or in a statement of its own, and by the names that
can be read from the texts both ways declare the same indexes. No statement creates what is already
there.
-/

import RecordMapper.Proofs.Dialect.Lawful
import RecordMapper.Proofs.Schema.Memberships
import RecordMapper.Proofs.Schema.WellFormed
import RecordMapper.Proofs.Sql.Definitions

namespace RecordMapper

open Sql

/-! ### What is declared -/

/-- The key clauses of a field that is the only key. -/
def soleKeyClauses : List String :=
  [" PRIMARY KEY", " PRIMARY KEY AUTOINCREMENT", " AUTO_INCREMENT PRIMARY KEY"]

/-- The key clauses of all other fields. -/
def otherKeyClauses : List String :=
  ["", " AUTO_INCREMENT"]

/-- A definition declares the column of a field. -/
structure Model.DeclaresColumn (model : Model) (dialect : Dialect) (field : Field)
    (definition : String) : Prop where
  /-- The key clause stands behind the type, and makes the column a key if its field is the only
  one. -/
  spelled : ∃ type clause, dialect.bareType field = .ok type ∧
    dialect.keyClause field = .ok clause ∧
    definition = dialect.quote field.column ++ " " ++ type ++ clause ++ dialect.constraints field ∧
    clause ∈ if model.primaryKeys = [field] then soleKeyClauses else otherKeyClauses
  read : readDefinition? dialect.quoteCharacter definition.toList = some (.column field.column)

/-- The declaration of several keys together; a single one has none. -/
def Model.keyDefinitions (model : Model) : List Definition :=
  if 2 ≤ model.primaryKeys.length then [.key (model.primaryKeys.map Field.column)] else []

/-- The index that a definition declares. -/
def Sql.Definition.index? : Definition → Option Index
  | .index declared => some declared
  | _ => none

/-- The indexes that definitions in a table and statements behind it declare. -/
def declaredIndexes (quote : Char) (definitions separate : List String) : List Index :=
  (definitions.filterMap fun text => (readDefinition? quote text.toList).bind Definition.index?) ++
    separate.filterMap fun text => (readIndexStatement? quote text.toList).map Prod.fst

/-- Definitions of columns, further definitions and separate statements declare the table of a
model. -/
structure Model.IsDeclaredBy (model : Model) (dialect : Dialect)
    (columns further separate : List String) : Prop where
  fields : List.Forall₂ (model.DeclaresColumn dialect) model.fields columns
  /-- Behind the columns, keys and then indexes are declared, the indexes only with MySQL. -/
  inTable : further.map (fun text => readDefinition? dialect.quoteCharacter text.toList) =
    (model.keyDefinitions ++
      if dialect.name = "mysql" then model.indexes.map Definition.index else []).map some
  /-- With the other products every index has a statement of its own. -/
  behindTable : separate.map (fun text => readIndexStatement? dialect.quoteCharacter text.toList) =
    (if dialect.name = "mysql" then [] else model.indexes).map fun index =>
      some (index, model.table)
  /-- Every index is declared, and no two are of the same name. -/
  indexes : declaredIndexes dialect.quoteCharacter (columns ++ further) separate = model.indexes
  names : (model.indexes.map Index.name).Nodup

/-- A statement creates a table or an index only if it is not there. -/
def IsGuarded (statement : String) : Prop :=
  ∃ sort ∈ ["TABLE", "INDEX", "UNIQUE INDEX"],
    ("CREATE " ++ sort ++ " IF NOT EXISTS ").toList <+: statement.toList

namespace Dialect

variable {dialect : Dialect}

/-- The dialects of the supported products. -/
def products : List Dialect :=
  [.postgres, .mySql, .sqlite]

theorem isPlain_of_mem_products (member : dialect ∈ products) :
    isPlain dialect.quoteCharacter = false := by
  simp only [products, List.mem_cons, List.not_mem_nil, or_false] at member
  rcases member with rfl | rfl | rfl
  · exact isLawful_postgres.quoteCharacter
  · exact isLawful_mySql.quoteCharacter
  · exact isLawful_sqlite.quoteCharacter

/-- Only MySQL has its indexes declared in the table. -/
theorem hasInlineIndexes_of_mem_products (member : dialect ∈ products) :
    dialect.hasInlineIndexes = true ↔ dialect.name = "mysql" := by
  simp only [products, List.mem_cons, List.not_mem_nil, or_false] at member
  rcases member with rfl | rfl | rfl <;> decide

/-- A key clause makes a column a key if its field is marked as the only one. -/
theorem keyClause_of_mem_products (member : dialect ∈ products) {field : Field} {clause : String}
    (written : dialect.keyClause field = .ok clause) :
    clause ∈ if field.isInlineKey then soleKeyClauses else otherKeyClauses := by
  simp only [products, List.mem_cons, List.not_mem_nil, or_false] at member
  rcases member with rfl | rfl | rfl
  · cases written
    cases field.isInlineKey <;> decide
  · cases written
    cases field.isInlineKey <;> cases field.isAutoIncrement <;> decide
  · change Sqlite.keyClause field = .ok clause at written
    unfold Sqlite.keyClause at written
    cases sole : field.isInlineKey <;> cases generated : field.isAutoIncrement <;>
      rw [sole, generated] at written <;> cases written <;> decide

end Dialect

/-! ### Parts of the table -/

section

variable {model : Model} {dialect : Dialect}

/-- A type with its clauses is made of the type, the key clause and the others. -/
theorem Dialect.columnType_eq_ok {field : Field} {text : String}
    (written : dialect.columnType field = .ok text) :
    ∃ type clause, dialect.bareType field = .ok type ∧ dialect.keyClause field = .ok clause ∧
      text = type ++ clause ++ dialect.constraints field := by
  unfold columnType at written
  split_ifs at written
  · cases written
  · obtain ⟨type, bare, written⟩ := Outcome.bind_eq_ok.mp written
    obtain ⟨clause, key, written⟩ := Outcome.bind_eq_ok.mp written
    cases written
    exact ⟨type, clause, bare, key, rfl⟩

/-- A definition is made of the quoted column, its type, the key clause and the others. -/
theorem columnDefinition_eq_ok {field : Field} {definition : String}
    (written : columnDefinition model dialect field = .ok definition) :
    ∃ type clause, dialect.bareType field = .ok type ∧ dialect.keyClause field = .ok clause ∧
      definition =
        dialect.quote field.column ++ " " ++ type ++ clause ++ dialect.constraints field := by
  unfold columnDefinition at written
  split at written
  · rename_i text typed
    cases written
    obtain ⟨type, clause, bare, key, rfl⟩ := Dialect.columnType_eq_ok typed
    exact ⟨type, clause, bare, key, by simp only [String.append_assoc]⟩
  · cases written

theorem declaresColumn_of_columnDefinition (known : dialect ∈ Dialect.products) {field : Field}
    (sole : field.isInlineKey = true ↔ model.primaryKeys = [field]) {definition : String}
    (written : columnDefinition model dialect field = .ok definition) :
    model.DeclaresColumn dialect field definition := by
  obtain ⟨type, clause, bare, key, rfl⟩ := columnDefinition_eq_ok written
  have clauses := Dialect.keyClause_of_mem_products known key
  simp only [sole] at clauses
  refine ⟨⟨type, clause, bare, key, rfl, clauses⟩, ?_⟩
  exact (readDefinition?_eq_column (Dialect.isPlain_of_mem_products known)).mpr
    ⟨(type ++ clause ++ dialect.constraints field).toList, by simp⟩

theorem readDefinition?_keyConstraints (known : dialect ∈ Dialect.products) (model : Model) :
    (keyConstraints model dialect).map
        (fun text => readDefinition? dialect.quoteCharacter text.toList) =
      model.keyDefinitions.map some := by
  unfold keyConstraints Model.keyDefinitions
  by_cases several : 1 < model.primaryKeys.length
  · rw [if_pos several, if_pos (by omega)]
    have nonempty : model.primaryKeys.map Field.column ≠ [] := by
      intro keyless
      rw [List.map_eq_nil_iff.mp keyless] at several
      exact absurd several (by decide)
    exact congrArg (fun declared => [declared])
      ((readDefinition?_eq_key (Dialect.isPlain_of_mem_products known)).mpr ⟨nonempty, rfl⟩)
  · rw [if_neg several, if_neg (by omega)]
    rfl

theorem isGuarded_indexStatement (model : Model) (dialect : Dialect) (index : Index) :
    IsGuarded (indexStatement model dialect index) := by
  unfold indexStatement Index.word
  cases index.isUnique
  · exact ⟨"INDEX", by simp, _, by simp; rfl⟩
  · exact ⟨"UNIQUE INDEX", by simp, _, by simp; rfl⟩

theorem isGuarded_createTable (name definitions : String) :
    IsGuarded ("CREATE TABLE IF NOT EXISTS " ++ name ++ " (" ++ definitions ++ ")") :=
  ⟨"TABLE", by simp, _, by simp; rfl⟩

/-! ### Tables -/

/-- Definitions of columns declare no index. -/
theorem filterMap_index?_columns {fields : List Field} {columns : List String}
    (declare : List.Forall₂ (model.DeclaresColumn dialect) fields columns) :
    columns.filterMap (fun text =>
      (readDefinition? dialect.quoteCharacter text.toList).bind Definition.index?) = [] := by
  induction declare with
  | nil => rfl
  | cons first _ inductionHypothesis =>
    rw [List.filterMap_cons, first.read]
    exact inductionHypothesis

/-- The indexes that can be read are those of the model, in the table or behind it. -/
theorem declaredIndexes_eq {columns further separate : List String}
    (fields : List.Forall₂ (model.DeclaresColumn dialect) model.fields columns)
    (inTable : further.map (fun text => readDefinition? dialect.quoteCharacter text.toList) =
      (model.keyDefinitions ++
        if dialect.name = "mysql" then model.indexes.map Definition.index else []).map some)
    (behindTable :
      separate.map (fun text => readIndexStatement? dialect.quoteCharacter text.toList) =
        (if dialect.name = "mysql" then [] else model.indexes).map fun index =>
          some (index, model.table)) :
    declaredIndexes dialect.quoteCharacter (columns ++ further) separate = model.indexes := by
  have ofFurther : further.filterMap (fun text =>
        (readDefinition? dialect.quoteCharacter text.toList).bind Definition.index?) =
      if dialect.name = "mysql" then model.indexes else [] := by
    have read := congrArg (List.filterMap fun declared => declared.bind Definition.index?) inTable
    rw [List.filterMap_map] at read
    refine read.trans ?_
    have noneOfKeys : model.keyDefinitions.filterMap Definition.index? = [] := by
      unfold Model.keyDefinitions
      split_ifs <;> rfl
    have all : (model.indexes.map Definition.index).filterMap Definition.index? =
        model.indexes := by
      rw [List.filterMap_map]
      exact List.filterMap_some
    rw [List.filterMap_map]
    show List.filterMap Definition.index? _ = _
    rw [List.filterMap_append, noneOfKeys, List.nil_append]
    split_ifs
    · exact all
    · rfl
  have ofSeparate : separate.filterMap (fun text =>
        (readIndexStatement? dialect.quoteCharacter text.toList).map Prod.fst) =
      if dialect.name = "mysql" then [] else model.indexes := by
    have read := congrArg (List.filterMap fun declared => declared.map Prod.fst) behindTable
    rw [List.filterMap_map] at read
    refine read.trans ?_
    rw [List.filterMap_map]
    exact List.filterMap_some
  rw [declaredIndexes, List.filterMap_append, filterMap_index?_columns fields, ofFurther,
    ofSeparate, List.nil_append]
  split_ifs
  · exact List.append_nil _
  · rfl

/-- What is written for a model that a description resolves to declares its columns, its keys and
its indexes, each once, and can be sent again. -/
theorem tableStatements_declare {statements : List String} (accepted : model.IsAccepted)
    (known : dialect ∈ Dialect.products)
    (written : tableStatements model dialect = .ok statements) :
    (∃ columns further separate,
      statements = ("CREATE TABLE IF NOT EXISTS " ++ dialect.quote model.table ++ " (" ++
        ", ".intercalate (columns ++ further) ++ ")") :: separate ∧
      model.IsDeclaredBy dialect columns further separate) ∧
    ∀ statement ∈ statements, IsGuarded statement := by
  obtain ⟨naming, descriptor, resolved⟩ := accepted
  have isIndexed := Schema.isIndexed_of_resolve resolved
  have plain := Dialect.isPlain_of_mem_products known
  have layout := Dialect.hasInlineIndexes_of_mem_products known
  obtain ⟨columns, defined, rfl⟩ := Outcome.map_eq_ok.mp written
  have fields : List.Forall₂ (model.DeclaresColumn dialect) model.fields columns := by
    refine ((List.forall₂_and_left _ _).mpr
      ⟨fun field member => Schema.isInlineKey_of_resolve resolved member,
        Outcome.mapM_eq_ok.mp defined⟩).imp ?_
    rintro field definition ⟨sole, written⟩
    exact declaresColumn_of_columnDefinition known sole written
  have inTable : (keyConstraints model dialect ++
        if dialect.hasInlineIndexes then model.indexes.map (inlineIndex dialect) else []).map
          (fun text => readDefinition? dialect.quoteCharacter text.toList) =
      (model.keyDefinitions ++
        if dialect.name = "mysql" then model.indexes.map Definition.index else []).map some := by
    rw [List.map_append, List.map_append, readDefinition?_keyConstraints known]
    refine congrArg _ ?_
    simp only [layout]
    split_ifs
    · rw [List.map_map, List.map_map]
      exact List.map_congr_left fun index member =>
        (readDefinition?_eq_index plain).mpr ⟨isIndexed.nonempty index member, rfl⟩
    · rfl
  have behindTable : (if dialect.hasInlineIndexes then []
        else model.indexes.map (indexStatement model dialect)).map
          (fun text => readIndexStatement? dialect.quoteCharacter text.toList) =
      (if dialect.name = "mysql" then [] else model.indexes).map fun index =>
        some (index, model.table) := by
    simp only [layout]
    split_ifs
    · rfl
    · rw [List.map_map]
      exact List.map_congr_left fun index member =>
        (readIndexStatement?_eq_some plain).mpr ⟨isIndexed.nonempty index member, rfl⟩
  refine ⟨⟨columns, _, _, by rw [← List.append_assoc], fields, inTable, behindTable,
    declaredIndexes_eq fields inTable behindTable, isIndexed.names⟩, fun statement member => ?_⟩
  rcases List.mem_cons.mp member with rfl | separate
  · exact isGuarded_createTable _ _
  · split_ifs at separate
    · cases separate
    · obtain ⟨index, -, rfl⟩ := List.mem_map.mp separate
      exact isGuarded_indexStatement model dialect index

/-- A description with two keys, of which one has an index. -/
def enrollment : RecordDescriptor where
  name := "Enrollment"
  table := none
  fields := [⟨"pupil", .int, false, "primaryKey"⟩, ⟨"class", .int, false, "primaryKey; index"⟩]
  hooks := []

/-- The two keys are declared together, and the index behind the table. -/
theorem tableStatements_declare_enrollment :
    ∃ model statements, model.IsAccepted ∧ tableStatements model .postgres = .ok statements ∧
      statements =
        ["CREATE TABLE IF NOT EXISTS \"enrollments\" (\"pupil\" INTEGER NOT NULL, " ++
          "\"class\" INTEGER NOT NULL, PRIMARY KEY (\"pupil\", \"class\"))",
        "CREATE INDEX IF NOT EXISTS \"idx_enrollments_class\" ON \"enrollments\" (\"class\")"] ∧
      (∃ columns further separate,
        statements = ("CREATE TABLE IF NOT EXISTS " ++ Dialect.postgres.quote model.table ++ " (" ++
          ", ".intercalate (columns ++ further) ++ ")") :: separate ∧
        model.IsDeclaredBy .postgres columns further separate) ∧
      ∀ statement ∈ statements, IsGuarded statement := by
  have written : ((Schema.resolve .snakeCasePlural enrollment).2.toOption.bind fun model =>
      (tableStatements model .postgres).toOption) =
        some ["CREATE TABLE IF NOT EXISTS \"enrollments\" (\"pupil\" INTEGER NOT NULL, " ++
          "\"class\" INTEGER NOT NULL, PRIMARY KEY (\"pupil\", \"class\"))",
        "CREATE INDEX IF NOT EXISTS \"idx_enrollments_class\" ON \"enrollments\" (\"class\")"] := by
    decide +kernel
  obtain ⟨model, found, written⟩ := Option.bind_eq_some_iff.mp written
  rw [Outcome.toOption_eq_some] at found written
  have accepted : model.IsAccepted := ⟨_, _, found⟩
  exact ⟨model, _, accepted, written, rfl,
    tableStatements_declare accepted (by simp [Dialect.products]) written⟩

end

end RecordMapper
