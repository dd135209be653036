/-
This file proves for which models no table can be declared. A field has no column for one of three
reasons: it is to be generated although its kind is not one of whole numbers, its kind is not mapped
and no type is stated, or, with SQLite, it is to be generated without being the only key. A stated
type answers the second reason and no other, and a type for generated keys answers none, since the
first reason is looked for before it. The first field without a column ends the work, and it is what
the failure names.
-/

import RecordMapper.Proofs.Schema.WellFormed
import RecordMapper.Proofs.Value.Transport
import RecordMapper.Migration.Table

namespace RecordMapper

/-! ### Fields without columns -/

/-- A field of a model has no column in a product: it is generated and no whole number, or of a kind
that is not mapped and states no type, or generated in SQLite without being the only key. -/
def Model.IsUnmappable (model : Model) (product : DatabaseProduct) (field : Field) : Prop :=
  (field.isAutoIncrement = true ∧ field.kind.isInteger = false) ∨
    ((∃ name, field.kind = .other name) ∧ field.sqlType = none) ∨
      (product = .sqlite ∧ field.isAutoIncrement = true ∧ model.primaryKeys ≠ [field])

theorem Kind.ne_other_of_isInteger {kind : Kind} (integer : kind.isInteger = true) {name : String} :
    kind ≠ .other name := by
  rintro rfl
  cases integer

namespace DatabaseProduct

/-- The name of a product in messages. -/
def title : DatabaseProduct → String
  | .postgres => "PostgreSQL"
  | .mySql => "MySQL"
  | .sqlite => "SQLite"

/-- What is said of a field without a column. Of several reasons the first is given. -/
def typeFault (product : DatabaseProduct) (field : Field) : TypeFault :=
  if field.isAutoIncrement && !field.kind.isInteger then .notAnInteger field.kind
  else
    match field.kind with
    | .other name => .unmapped product.title name
    | _ => .strayGeneratedKey

variable {product : DatabaseProduct} {model : Model} {field : Field} {fault : TypeFault}

/-! ### What the products refuse -/

/-- A kind has no type of its own in a product if it is not mapped. -/
theorem baseType_eq_error : product.dialect.baseType field = .error fault ↔
    ∃ name, field.kind = .other name ∧ fault = .unmapped product.title name := by
  cases product with
  | postgres =>
    show Dialect.Postgres.baseType field = .error fault ↔ _
    unfold Dialect.Postgres.baseType
    cases field.kind <;> simp [title, @eq_comm _ fault]
  | mySql =>
    show Dialect.MySql.baseType field = .error fault ↔ _
    unfold Dialect.MySql.baseType
    cases field.kind <;> simp [title, @eq_comm _ fault]
  | sqlite =>
    show Dialect.Sqlite.baseType field = .error fault ↔ _
    unfold Dialect.Sqlite.baseType
    cases field.kind <;> simp [title, @eq_comm _ fault]

/-- A key clause is refused by SQLite alone, for a generated field that is not the only key. -/
theorem keyClause_eq_error : product.dialect.keyClause field = .error fault ↔
    product = .sqlite ∧ field.isAutoIncrement = true ∧ field.isInlineKey = false ∧
      fault = .strayGeneratedKey := by
  cases product with
  | postgres => simp [dialect, Dialect.postgres]
  | mySql => simp [dialect, Dialect.mySql, Dialect.MySql.keyClause]
  | sqlite =>
    show Dialect.Sqlite.keyClause field = .error fault ↔ _
    unfold Dialect.Sqlite.keyClause
    cases field.isInlineKey <;> cases field.isAutoIncrement <;> simp [@eq_comm _ fault]

/-- Where only whole numbers are generated, a type is missing if none is stated and the kind is not
mapped. -/
theorem bareType_eq_error (suited : field.isAutoIncrement = true → field.kind.isInteger = true) :
    product.dialect.bareType field = .error fault ↔
      field.sqlType = none ∧ ∃ name, field.kind = .other name ∧
        fault = .unmapped product.title name := by
  rw [← baseType_eq_error, Dialect.bareType]
  cases field.sqlType with
  | some stated => simp
  | none =>
    cases generated : field.isAutoIncrement with
    | false => simp
    | true =>
      cases product.dialect.serialType field with
      | none => simp
      | some serial =>
        have mapped : product.dialect.baseType field ≠ .error fault := by
          intro refused
          obtain ⟨name, isOther, -⟩ := baseType_eq_error.mp refused
          exact Kind.ne_other_of_isInteger (suited generated) isOther
        simp [mapped]

theorem typeFault_of_unsuited (generated : field.isAutoIncrement = true)
    (unsuited : field.kind.isInteger = false) :
    product.typeFault field = .notAnInteger field.kind := by
  simp [typeFault, generated, unsuited]

theorem typeFault_of_other {name : String} (isOther : field.kind = .other name)
    (suited : field.isAutoIncrement = true → field.kind.isInteger = true) :
    product.typeFault field = .unmapped product.title name := by
  have given : field.isAutoIncrement = false :=
    Bool.eq_false_iff.mpr fun generated => Kind.ne_other_of_isInteger (suited generated) isOther
  simp [typeFault, isOther, given]

theorem typeFault_of_integer (integer : field.kind.isInteger = true) :
    product.typeFault field = .strayGeneratedKey := by
  unfold typeFault
  rw [integer, Bool.not_true, Bool.and_false]
  cases kind : field.kind with
  | other name => exact absurd kind (Kind.ne_other_of_isInteger integer)
  | _ => rfl

/-- The type and the clauses of a column are refused for the fields without a column, and for no
others. -/
theorem columnType_eq_error (sole : field.isInlineKey = true ↔ model.primaryKeys = [field]) :
    product.dialect.columnType field = .error fault ↔
      model.IsUnmappable product field ∧ fault = product.typeFault field := by
  unfold Dialect.columnType
  by_cases unsuited : field.isAutoIncrement = true ∧ field.kind.isInteger = false
  · rw [if_pos (by simp [unsuited]), typeFault_of_unsuited unsuited.1 unsuited.2]
    have lacks : model.IsUnmappable product field := .inl unsuited
    rw [and_iff_right lacks]
    exact ⟨fun failed => (Except.error.inj failed).symm, fun same => congrArg _ same.symm⟩
  · rw [if_neg (by simpa using unsuited)]
    have suited (generated : field.isAutoIncrement = true) : field.kind.isInteger = true := by
      simpa [generated] using unsuited
    constructor
    · intro failed
      rcases Outcome.bind_eq_error.mp failed with failed | ⟨type, -, failed⟩
      · obtain ⟨unstated, name, isOther, rfl⟩ := (bareType_eq_error suited).mp failed
        exact ⟨.inr (.inl ⟨⟨name, isOther⟩, unstated⟩), (typeFault_of_other isOther suited).symm⟩
      · rcases Outcome.bind_eq_error.mp failed with failed | ⟨clause, -, failed⟩
        · obtain ⟨isSqlite, generated, unmarked, rfl⟩ := keyClause_eq_error.mp failed
          have several : model.primaryKeys ≠ [field] :=
            fun alone => Bool.eq_false_iff.mp unmarked (sole.mpr alone)
          exact ⟨.inr (.inr ⟨isSqlite, generated, several⟩),
            (typeFault_of_integer (suited generated)).symm⟩
        · cases failed
    · rintro ⟨generated | ⟨⟨name, isOther⟩, unstated⟩ | ⟨isSqlite, generated, several⟩, rfl⟩
      · exact absurd generated unsuited
      · exact Outcome.bind_eq_error.mpr (.inl ((bareType_eq_error suited).mpr
          ⟨unstated, name, isOther, typeFault_of_other isOther suited⟩))
      · have unmarked : field.isInlineKey = false :=
          Bool.eq_false_iff.mpr fun marked => several (sole.mp marked)
        have refused : product.dialect.keyClause field = .error (product.typeFault field) :=
          keyClause_eq_error.mpr
            ⟨isSqlite, generated, unmarked, typeFault_of_integer (suited generated)⟩
        refine Outcome.bind_eq_error.mpr ?_
        cases typed : product.dialect.bareType field with
        | ok type => exact .inr ⟨type, rfl, Outcome.bind_eq_error.mpr (.inl refused)⟩
        | error other =>
          obtain ⟨-, name, isOther, -⟩ := (bareType_eq_error suited).mp typed
          exact absurd isOther (Kind.ne_other_of_isInteger (suited generated))

end DatabaseProduct

/-! ### Tables -/

section

variable {product : DatabaseProduct} {model : Model}

theorem columnDefinition_eq_error {field : Field} {error : Error}
    (sole : field.isInlineKey = true ↔ model.primaryKeys = [field]) :
    columnDefinition model product.dialect field = .error error ↔
      model.IsUnmappable product field ∧
        error = .unsupportedType model.name field.name (product.typeFault field) := by
  unfold columnDefinition
  constructor
  · intro failed
    split at failed
    · cases failed
    · rename_i fault refused
      obtain ⟨lacks, rfl⟩ := (DatabaseProduct.columnType_eq_error sole).mp refused
      exact ⟨lacks, (Except.error.inj failed).symm⟩
  · rintro ⟨lacks, rfl⟩
    rw [(DatabaseProduct.columnType_eq_error sole).mpr ⟨lacks, rfl⟩]

theorem exists_columnDefinition_iff {field : Field}
    (sole : field.isInlineKey = true ↔ model.primaryKeys = [field]) :
    (∃ definition, columnDefinition model product.dialect field = .ok definition) ↔
      ¬ model.IsUnmappable product field := by
  constructor
  · rintro ⟨definition, written⟩ lacks
    have failed := (columnDefinition_eq_error sole).mpr ⟨lacks, rfl⟩
    cases written.symm.trans failed
  · intro mapped
    cases written : columnDefinition model product.dialect field with
    | ok definition => exact ⟨definition, rfl⟩
    | error error => exact absurd ((columnDefinition_eq_error sole).mp written).1 mapped

/-- No table can be declared for a model that a description resolves to if and only if one of its
fields has no column. The failure names the model and the first of these fields with its reason, and
there is no other failure. -/
theorem tableStatements_fails_iff (product : DatabaseProduct) (accepted : model.IsAccepted) :
    ((∃ error, tableStatements model product.dialect = .error error) ↔
      ∃ field ∈ model.fields, model.IsUnmappable product field) ∧
    ∀ error, tableStatements model product.dialect = .error error ↔
      ∃ earlier field later, model.fields = earlier ++ field :: later ∧
        (∀ other ∈ earlier, ¬ model.IsUnmappable product other) ∧
        model.IsUnmappable product field ∧
        error = .unsupportedType model.name field.name (product.typeFault field) := by
  obtain ⟨naming, descriptor, resolved⟩ := accepted
  have sole (field : Field) (member : field ∈ model.fields) :
      field.isInlineKey = true ↔ model.primaryKeys = [field] :=
    Schema.isInlineKey_of_resolve resolved member
  have fails (error : Error) : tableStatements model product.dialect = .error error ↔
      ∃ earlier field later, model.fields = earlier ++ field :: later ∧
        (∀ other ∈ earlier, ¬ model.IsUnmappable product other) ∧
        model.IsUnmappable product field ∧
        error = .unsupportedType model.name field.name (product.typeFault field) := by
    rw [tableStatements, Outcome.map_eq_error, Outcome.mapM_eq_error]
    refine exists_congr fun earlier => exists_congr fun field => exists_congr fun later =>
      and_congr_right fun split => ?_
    refine and_congr (forall₂_congr fun other member => ?_) (columnDefinition_eq_error ?_)
    · exact exists_columnDefinition_iff (sole other (by simp [split, member]))
    · exact sole field (by simp [split])
  refine ⟨⟨?_, ?_⟩, fails⟩
  · rintro ⟨error, failed⟩
    obtain ⟨earlier, field, later, split, -, lacks, -⟩ := (fails error).mp failed
    exact ⟨field, by simp [split], lacks⟩
  · rintro ⟨field, member, lacks⟩
    cases written : tableStatements model product.dialect with
    | error error => exact ⟨error, rfl⟩
    | ok statements =>
      obtain ⟨columns, defined, -⟩ := Outcome.map_eq_ok.mp written
      obtain ⟨definition, -, mapped⟩ :=
        Outcome.exists_of_forall₂ (Outcome.mapM_eq_ok.mp defined).flip member
      exact absurd lacks ((exists_columnDefinition_iff (sole field member)).mp ⟨definition, mapped⟩)

end

/-- A description with a counter that is not the only key, a payload whose kind is not mapped, and a
code that cannot be generated. -/
def shipment : RecordDescriptor where
  name := "Shipment"
  table := none
  fields := [⟨"id", .bigInt, false, "primaryKey"⟩, ⟨"counter", .int, false, "autoIncrement"⟩,
    ⟨"payload", .other "Document", false, ""⟩, ⟨"code", .text, false, "type:UUID; autoIncrement"⟩]
  hooks := []

/-- Which field is the first without a column depends on the product. -/
theorem tableStatements_fails_iff_shipment :
    ∃ model, model.IsAccepted ∧
      tableStatements model .sqlite =
        .error (.unsupportedType "Shipment" "counter" .strayGeneratedKey) ∧
      tableStatements model .postgres =
        .error (.unsupportedType "Shipment" "payload" (.unmapped "PostgreSQL" "Document")) ∧
      (∃ field ∈ model.fields, model.IsUnmappable .sqlite field) ∧
      ∃ field ∈ model.fields, model.IsUnmappable .postgres field := by
  have found : ((Schema.resolve .snakeCasePlural shipment).2.toOption.map fun model =>
      (Outcome.errorOf (tableStatements model .sqlite),
        Outcome.errorOf (tableStatements model .postgres))) =
      some (some (.unsupportedType "Shipment" "counter" .strayGeneratedKey),
        some (.unsupportedType "Shipment" "payload" (.unmapped "PostgreSQL" "Document"))) := by
    decide +kernel
  obtain ⟨model, resolved, failed⟩ := Option.map_eq_some_iff.mp found
  rw [Outcome.toOption_eq_some] at resolved
  obtain ⟨inSqlite, inPostgres⟩ := Prod.mk.inj failed
  rw [Outcome.errorOf_eq_some] at inSqlite inPostgres
  have accepted : model.IsAccepted := ⟨_, _, resolved⟩
  exact ⟨model, accepted, inSqlite, inPostgres,
    (tableStatements_fails_iff .sqlite accepted).1.mp ⟨_, inSqlite⟩,
    (tableStatements_fails_iff .postgres accepted).1.mp ⟨_, inPostgres⟩⟩

end RecordMapper
