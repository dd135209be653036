/-
This file says which types columns are declared with where a product is particular about them.
SQLite generates keys only in a column that is declared `INTEGER PRIMARY KEY`, and MySQL has no key
and no index over `TEXT` or `BLOB`. A stated type goes before what the product asks for, so that a
generated key has the type that is wanted unless another one is stated. Texts that are indexed get a
limited type, for being indexed means the same to a field as to the indexes of its model. Bytes get
the same type whether they are indexed or not, so that they alone are declared as no key can be.
-/

import RecordMapper.Proofs.Migration.Tables
import RecordMapper.Proofs.Text.Digits

namespace RecordMapper

open Sql Text

/-! ### Generated keys -/

namespace Dialect.Sqlite

/-- The definition of a column with a generated key, by the type of the column. -/
def generatedKey (field : Field) (type : String) : String :=
  Dialect.sqlite.quote field.column ++ " " ++ type ++ " PRIMARY KEY AUTOINCREMENT" ++
    match field.defaultValue with
    | some expression => " DEFAULT " ++ expression
    | none => ""

theorem generatedKey_injective (field : Field) : Function.Injective (generatedKey field) := by
  intro first second same
  simpa [generatedKey] using same

theorem bareType_of_generated {field : Field} (generated : field.isAutoIncrement = true) :
    Dialect.sqlite.bareType field = .ok (field.sqlType.getD "INTEGER") := by
  unfold bareType
  rw [generated]
  cases field.sqlType <;> rfl

/-- A generated column is the only key, and it has no clause but that and its default. -/
theorem columnDefinition_of_generated {model : Model} {field : Field} {definition : String}
    (generated : field.isAutoIncrement = true)
    (written : columnDefinition model .sqlite field = .ok definition) :
    field.isInlineKey = true ∧
      definition = generatedKey field (field.sqlType.getD "INTEGER") := by
  obtain ⟨type, clause, bare, key, rfl⟩ := columnDefinition_eq_ok written
  rw [bareType_of_generated generated] at bare
  cases bare
  change keyClause field = .ok clause at key
  unfold keyClause at key
  rw [generated] at key
  cases marked : field.isInlineKey with
  | false =>
    rw [marked] at key
    cases key
  | true =>
    rw [marked] at key
    cases key
    refine ⟨rfl, ?_⟩
    have others : Dialect.sqlite.constraints field =
        match field.defaultValue with
        | some expression => " DEFAULT " ++ expression
        | none => "" := by
      simp only [constraints, marked, Bool.not_true, Bool.and_false, Bool.false_eq_true, if_false,
        String.empty_append]
      rfl
    rw [others]
    rfl

end Dialect.Sqlite

/-- How the type that SQLite has a generated column declared with depends on its field. -/
structure Model.DeclaresGenerated (model : Model) (field : Field) (definition : String) : Prop where
  written : columnDefinition model .sqlite field = .ok definition
  alone : field.isAutoIncrement = true → model.primaryKeys = [field]
  /-- A stated type stands as it is. -/
  spelled : field.isAutoIncrement = true →
    definition = Dialect.Sqlite.generatedKey field (field.sqlType.getD "INTEGER")
  /-- Nothing but a stated type keeps a column from having the one that generated keys need. -/
  needed : field.isAutoIncrement = true →
    (definition = Dialect.Sqlite.generatedKey field "INTEGER" ↔
      ∀ stated, field.sqlType = some stated → stated = "INTEGER")

open Dialect.Sqlite in
theorem declaresGenerated_of_columnDefinition {model : Model} {field : Field} {definition : String}
    (sole : field.isInlineKey = true ↔ model.primaryKeys = [field])
    (written : columnDefinition model .sqlite field = .ok definition) :
    model.DeclaresGenerated field definition := by
  refine
    { written
      alone := fun generated => sole.mp (columnDefinition_of_generated generated written).1
      spelled := fun generated => (columnDefinition_of_generated generated written).2
      needed := fun generated => ?_ }
  rw [(columnDefinition_of_generated generated written).2, (generatedKey_injective field).eq_iff]
  cases field.sqlType with
  | none => simp
  | some stated => simp

/-- What is written for SQLite declares each generated column as the only key of its table, with the
stated type or else with the one that such a key needs, and with nothing behind but its default. -/
theorem tableStatements_generatedKey {model : Model} {statements : List String}
    (accepted : model.IsAccepted) (written : tableStatements model .sqlite = .ok statements) :
    ∃ columns further separate,
      statements = ("CREATE TABLE IF NOT EXISTS " ++ Dialect.sqlite.quote model.table ++ " (" ++
        ", ".intercalate (columns ++ further) ++ ")") :: separate ∧
      List.Forall₂ model.DeclaresGenerated model.fields columns := by
  obtain ⟨naming, descriptor, resolved⟩ := accepted
  obtain ⟨columns, defined, rfl⟩ := Outcome.map_eq_ok.mp written
  refine ⟨columns, _, _, by rw [← List.append_assoc], ?_⟩
  refine Outcome.forall₂_of_mapM (fun field member definition written => ?_) defined
  exact declaresGenerated_of_columnDefinition (Schema.isInlineKey_of_resolve resolved member)
    written

/-- A description with a generated key that has a column name, a size and a default of its own. -/
def folder : RecordDescriptor where
  name := "Folder"
  table := none
  fields := [⟨"id", .bigInt, false, "primaryKey; autoIncrement; column:key; size:8; default:1"⟩,
    ⟨"label", .text, false, ""⟩]
  hooks := []

/-- No clause but a stated type changes the type of a generated key. -/
theorem tableStatements_generatedKey_folder :
    ∃ model statements, model.IsAccepted ∧ tableStatements model .sqlite = .ok statements ∧
      statements = ["CREATE TABLE IF NOT EXISTS \"folders\" (\"key\" INTEGER PRIMARY KEY " ++
        "AUTOINCREMENT DEFAULT 1, \"label\" TEXT NOT NULL)"] ∧
      ∃ columns further separate,
        statements = ("CREATE TABLE IF NOT EXISTS " ++ Dialect.sqlite.quote model.table ++ " (" ++
          ", ".intercalate (columns ++ further) ++ ")") :: separate ∧
        List.Forall₂ model.DeclaresGenerated model.fields columns := by
  have written : ((Schema.resolve .snakeCasePlural folder).2.toOption.bind fun model =>
      (tableStatements model .sqlite).toOption) =
        some ["CREATE TABLE IF NOT EXISTS \"folders\" (\"key\" INTEGER PRIMARY KEY " ++
          "AUTOINCREMENT DEFAULT 1, \"label\" TEXT NOT NULL)"] := by
    decide +kernel
  obtain ⟨model, found, written⟩ := Option.bind_eq_some_iff.mp written
  rw [Outcome.toOption_eq_some] at found written
  have accepted : model.IsAccepted := ⟨_, _, found⟩
  exact ⟨model, _, accepted, written, rfl, tableStatements_generatedKey accepted written⟩

/-- A description with a generated key for which a type is stated. -/
def ledger : RecordDescriptor where
  name := "Ledger"
  table := none
  fields := [⟨"id", .bigInt, false, "primaryKey;autoIncrement;type:BIGINT"⟩,
    ⟨"note", .text, false, ""⟩]
  hooks := []

/-- The stated type is used as it stands, although SQLite wants another one. -/
theorem ledger_keepsType :
    ∃ model, (Schema.resolve .snakeCasePlural ledger).2 = .ok model ∧
      tableStatements model .sqlite =
        .ok ["CREATE TABLE IF NOT EXISTS \"ledgers\" (\"id\" BIGINT PRIMARY KEY AUTOINCREMENT, " ++
          "\"note\" TEXT NOT NULL)"] ∧
      ∃ field ∈ model.fields, field.isAutoIncrement = true ∧
        columnDefinition model .sqlite field = .ok "\"id\" BIGINT PRIMARY KEY AUTOINCREMENT" ∧
        Dialect.Sqlite.generatedKey field "INTEGER" =
          "\"id\" INTEGER PRIMARY KEY AUTOINCREMENT" := by
  have found : ((Schema.resolve .snakeCasePlural ledger).2.toOption.map fun model =>
      ((tableStatements model .sqlite).toOption,
        decide (∃ field ∈ model.fields, field.isAutoIncrement = true ∧
          (columnDefinition model .sqlite field).toOption =
            some "\"id\" BIGINT PRIMARY KEY AUTOINCREMENT" ∧
          Dialect.Sqlite.generatedKey field "INTEGER" =
            "\"id\" INTEGER PRIMARY KEY AUTOINCREMENT"))) =
      some (some ["CREATE TABLE IF NOT EXISTS \"ledgers\" (\"id\" BIGINT PRIMARY KEY " ++
        "AUTOINCREMENT, \"note\" TEXT NOT NULL)"], true) := by
    decide +kernel
  obtain ⟨model, resolved, looked⟩ := Option.map_eq_some_iff.mp found
  obtain ⟨written, declared⟩ := Prod.mk.inj looked
  obtain ⟨field, member, generated, defined, wanted⟩ := of_decide_eq_true declared
  rw [Outcome.toOption_eq_some] at resolved written defined
  exact ⟨model, resolved, written, field, member, generated, defined, wanted⟩

/-! ### Types that are read back -/

/-- The word behind the quoted name that a definition begins with. It is the type of a column, if
the type is a single word. -/
def Sql.readType? (quote : Char) (text : List Char) : Option String := do
  let (_, following) ← readName? quote text
  let rest ← withoutOpening [' '] following
  return String.ofList (rest.takeWhile fun character => character != ' ')

/-- A text that is empty or begins with a blank, so that it is no part of the word before it. -/
def IsDetached (text : String) : Prop :=
  ∀ character ∈ text.toList.head?, character = ' '

theorem isDetached_append {first second : String} (before : IsDetached first)
    (behind : IsDetached second) : IsDetached (first ++ second) := by
  unfold IsDetached at before behind ⊢
  rw [String.toList_append]
  cases firstText : first.toList with
  | nil => simpa using behind
  | cons character rest => simpa [firstText] using before

theorem isDetached_constraints (dialect : Dialect) (field : Field) :
    IsDetached (dialect.constraints field) := by
  unfold Dialect.constraints
  refine isDetached_append ?_ ?_
  · split_ifs <;> simp [IsDetached]
  · split <;> simp [IsDetached]

theorem takeWhile_word {word rest : List Char} (solid : ' ' ∉ word)
    (ends : ∀ character ∈ rest.head?, character = ' ') :
    (word ++ rest).takeWhile (fun character => character != ' ') = word := by
  have stops : rest.takeWhile (fun character => character != ' ') = [] := by
    cases rest with
    | nil => rfl
    | cons character later => simp [ends character rfl]
  rw [List.takeWhile_append_of_pos, stops, List.append_nil]
  intro character member
  exact bne_iff_ne.mpr fun same => solid (same ▸ member)

/-- A type that is a single word is read back from the definition of its column. -/
theorem readType?_definition {dialect : Dialect} (plain : isPlain dialect.quoteCharacter = false)
    (name : String) {type clauses : String} (solid : ' ' ∉ type.toList)
    (detached : IsDetached clauses) :
    readType? dialect.quoteCharacter (dialect.quote name ++ " " ++ type ++ clauses).toList =
      some type := by
  have blank : ' ' ≠ dialect.quoteCharacter := ne_quote_of_isPlain plain (by decide)
  have whole : (dialect.quote name ++ " " ++ type ++ clauses).toList =
      (dialect.quote name).toList ++ ' ' :: (type.toList ++ clauses.toList) := by
    simp
  have named := (Dialect.readName?_quote_append name (' ' :: (type.toList ++ clauses.toList))).mpr
    fun same => blank (Option.some_inj.mp same)
  rw [whole, readType?, named]
  show some (String.ofList ((type.toList ++ clauses.toList).takeWhile _)) = some type
  rw [takeWhile_word solid detached, String.ofList_toList]

/-! ### Indexed columns -/

/-- A field is a key of a model or its column is in one of the indexes. -/
def Model.IsKeyedOrIndexed (model : Model) (field : Field) : Prop :=
  field.isPrimaryKey = true ∨ ∃ index ∈ model.indexes, field.column ∈ index.columns

instance (model : Model) (field : Field) : Decidable (model.IsKeyedOrIndexed field) :=
  inferInstanceAs (Decidable (_ ∨ _))

namespace Schema

variable {naming : NamingStrategy} {descriptor : RecordDescriptor} {model : Model} {field : Field}

/-- A field that is to be unique is part of a unique index. -/
theorem memberships_of_isUnique (resolved : (resolve naming descriptor).2 = .ok model)
    (member : field ∈ model.fields) (unique : field.isUnique = true) :
    field.memberships true ≠ [] := by
  obtain ⟨fields, marked, -, maps⟩ := fields_of_resolve resolved
  rw [marked] at member
  obtain ⟨described, -, size, precision, scale, isInlineKey, rfl⟩ :=
    Outcome.exists_of_forall₂ (maps_markSoleKey maps) member
  have asked : (FieldTag.parse described.1.tag).isUnique = true := unique
  simp [Field.memberships, Setting.mapped, Setting.uniqueIndexes, asked]

/-- What a field knows of its key and its indexes agrees with the model. -/
theorem isIndexed_iff (resolved : (resolve naming descriptor).2 = .ok model)
    (member : field ∈ model.fields) :
    Dialect.MySql.isIndexed field = true ↔ model.IsKeyedOrIndexed field := by
  have isIndexed := isIndexed_of_resolve resolved
  have joins (isUnique : Bool) (isMember : field.memberships isUnique ≠ []) :
      model.IsKeyedOrIndexed field := by
    obtain ⟨name, listed⟩ := List.exists_mem_of_ne_nil _ isMember
    obtain ⟨index, among, rfl, rfl⟩ := isIndexed.indexed field member isUnique name listed
    exact .inr ⟨index, among, (isIndexed.members field member index among).mpr listed⟩
  unfold Dialect.MySql.isIndexed
  simp only [Bool.or_eq_true, Bool.not_eq_true', List.isEmpty_eq_false_iff]
  constructor
  · rintro (((isKey | isUnique) | plain) | unique)
    · exact .inl isKey
    · exact joins true (memberships_of_isUnique resolved member isUnique)
    · exact joins false plain
    · exact joins true unique
  · rintro (isKey | ⟨index, among, listed⟩)
    · exact .inl (.inl (.inl isKey))
    · have named := (isIndexed.members field member index among).mp listed
      cases isUnique : index.isUnique with
      | false =>
        rw [isUnique] at named
        exact .inl (.inr (List.ne_nil_of_mem named))
      | true =>
        rw [isUnique] at named
        exact .inr (List.ne_nil_of_mem named)

end Schema

/-! ### Types of MySQL -/

theorem blank_notMem_naturalText (value : Nat) : ' ' ∉ (naturalText value).toList := by
  intro member
  cases (isSolid_naturalText value).2 ' ' member

/-- A text is no other text that lacks its opening. -/
theorem append_ne {opening rest other : String} (apart : ¬ opening.toList <+: other.toList) :
    opening ++ rest ≠ other := by
  rintro rfl
  exact apart ⟨rest.toList, by simp⟩

namespace Dialect.MySql

variable {field : Field} {type : String}

/-- A type that is a single word and neither of the two that cannot be indexed. -/
structure IsBounded (type : String) : Prop where
  solid : ' ' ∉ type.toList
  notText : type ≠ "TEXT"
  notBlob : type ≠ "BLOB"

theorem isBounded_append {opening rest : String} (text : ¬ opening.toList <+: "TEXT".toList)
    (blob : ¬ opening.toList <+: "BLOB".toList) (solid : ' ' ∉ (opening ++ rest).toList) :
    IsBounded (opening ++ rest) :=
  ⟨solid, append_ne text, append_ne blob⟩

theorem isBounded_decimalOr {floating : String} (bounded : IsBounded floating) :
    IsBounded (decimalOr "DECIMAL" field floating) := by
  unfold decimalOr
  split
  · simp only [String.append_assoc]
    exact isBounded_append (by decide) (by decide) (by simp [blank_notMem_naturalText])
  · simp only [String.append_assoc]
    exact isBounded_append (by decide) (by decide) (by simp [blank_notMem_naturalText])
  · exact bounded

theorem isBounded_sized (size : Nat) : IsBounded ("VARCHAR(" ++ naturalText size ++ ")") := by
  rw [String.append_assoc]
  exact isBounded_append (by decide) (by decide) (by simp [blank_notMem_naturalText])

/-- The type of a column can be indexed, unless it is that of bytes or of a text without a size that
is not known to be indexed. -/
theorem baseType_cases (typed : baseType field = .ok type) :
    (field.kind = .text ∧ field.size = none ∧ isIndexed field = false ∧ type = "TEXT") ∨
    (field.kind = .blob ∧ type = "BLOB") ∨
    (field.kind ≠ .blob ∧ ¬ (field.kind = .text ∧ field.size = none ∧ isIndexed field = false) ∧
      IsBounded type) := by
  unfold baseType at typed
  cases kind : field.kind <;> rw [kind] at typed <;> cases typed
  case text =>
    unfold sizedText
    cases field.size with
    | some size => exact .inr (.inr ⟨by simp, by simp, isBounded_sized size⟩)
    | none =>
      cases isIndexed field with
      | false => exact .inl ⟨rfl, rfl, rfl, rfl⟩
      | true => exact .inr (.inr ⟨by simp, by simp, by constructor <;> decide⟩)
  case blob => exact .inr (.inl ⟨rfl, rfl⟩)
  case real => exact .inr (.inr ⟨by simp, by simp, isBounded_decimalOr (by constructor <;> decide)⟩)
  case double =>
    exact .inr (.inr ⟨by simp, by simp, isBounded_decimalOr (by constructor <;> decide)⟩)
  all_goals exact .inr (.inr ⟨by simp, by simp, by constructor <;> decide⟩)

theorem blank_notMem_of_baseType (typed : baseType field = .ok type) : ' ' ∉ type.toList := by
  rcases baseType_cases typed with ⟨-, -, -, rfl⟩ | ⟨-, rfl⟩ | ⟨-, -, bounded⟩
  · decide
  · decide
  · exact bounded.solid

theorem eq_text_iff (typed : baseType field = .ok type) :
    type = "TEXT" ↔ field.kind = .text ∧ field.size = none ∧ isIndexed field = false := by
  rcases baseType_cases typed with ⟨kind, size, spared, rfl⟩ | ⟨kind, rfl⟩ | ⟨-, apart, bounded⟩
  · simp [kind, size, spared]
  · simp [kind]
  · exact iff_of_false bounded.notText apart

theorem eq_blob_iff (typed : baseType field = .ok type) : type = "BLOB" ↔ field.kind = .blob := by
  rcases baseType_cases typed with ⟨kind, -, -, rfl⟩ | ⟨kind, rfl⟩ | ⟨apart, -, bounded⟩
  · simp [kind]
  · simp [kind]
  · exact iff_of_false bounded.notBlob apart

theorem isDetached_keyClause {clause : String} (written : keyClause field = .ok clause) :
    IsDetached clause := by
  cases written
  refine isDetached_append ?_ ?_ <;> split_ifs <;> simp [IsDetached]

end Dialect.MySql

/-! ### Types in keys and indexes -/

/-- How the type that MySQL has a column declared with depends on its field. -/
structure Model.DeclaresType (model : Model) (field : Field) (definition : String) : Prop where
  written : columnDefinition model .mySql field = .ok definition
  read : ∃ type, Dialect.MySql.baseType field = .ok type ∧
    readType? Dialect.mySql.quoteCharacter definition.toList = some type
  /-- Texts of any length are in no key and in no index. -/
  isText : readType? Dialect.mySql.quoteCharacter definition.toList = some "TEXT" ↔
    field.kind = .text ∧ field.size = none ∧ ¬ model.IsKeyedOrIndexed field
  /-- Bytes of any length may be in both. -/
  isBlob : readType? Dialect.mySql.quoteCharacter definition.toList = some "BLOB" ↔
    field.kind = .blob

/-- No column of a key or of an index has a type that MySQL cannot index. -/
def Model.HasBoundedKeys (model : Model) : Prop :=
  ∀ field ∈ model.fields, model.IsKeyedOrIndexed field →
    ∀ definition, columnDefinition model .mySql field = .ok definition →
      readType? Dialect.mySql.quoteCharacter definition.toList ∉ [some "TEXT", some "BLOB"]

section

variable {model : Model}

theorem declaresType_of_columnDefinition {field : Field} {definition : String}
    (indexed : Dialect.MySql.isIndexed field = true ↔ model.IsKeyedOrIndexed field)
    (unstated : field.sqlType = none)
    (written : columnDefinition model .mySql field = .ok definition) :
    model.DeclaresType field definition := by
  obtain ⟨type, clause, bare, key, rfl⟩ := columnDefinition_eq_ok written
  have typed : Dialect.MySql.baseType field = .ok type := by
    unfold Dialect.bareType at bare
    rw [unstated] at bare
    cases generated : field.isAutoIncrement <;> rw [generated] at bare <;> exact bare
  have read : readType? Dialect.mySql.quoteCharacter (Dialect.mySql.quote field.column ++ " " ++
      type ++ clause ++ Dialect.mySql.constraints field).toList = some type := by
    rw [String.append_assoc]
    exact readType?_definition (Dialect.isPlain_of_mem_products (by simp [Dialect.products]))
      field.column (Dialect.MySql.blank_notMem_of_baseType typed)
      (isDetached_append (Dialect.MySql.isDetached_keyClause key) (isDetached_constraints _ _))
  refine ⟨written, ⟨type, typed, read⟩, ?_, ?_⟩
  · rw [read, Option.some_inj, Dialect.MySql.eq_text_iff typed, ← indexed, Bool.not_eq_true]
  · rw [read, Option.some_inj, Dialect.MySql.eq_blob_iff typed]

/-- What is written for MySQL, if no field states a type, declares a text of any length only where
it is in no key and in no index, and bytes wherever they are. So no column of a key or of an index
has a type that cannot be indexed if and only if none is of bytes. -/
theorem tableStatements_boundedKeys_iff {statements : List String} (accepted : model.IsAccepted)
    (unstated : ∀ field ∈ model.fields, field.sqlType = none)
    (written : tableStatements model .mySql = .ok statements) :
    (∃ columns further,
      statements = ["CREATE TABLE IF NOT EXISTS " ++ Dialect.mySql.quote model.table ++ " (" ++
        ", ".intercalate (columns ++ further) ++ ")"] ∧
      List.Forall₂ model.DeclaresType model.fields columns) ∧
    (model.HasBoundedKeys ↔
      ∀ field ∈ model.fields, model.IsKeyedOrIndexed field → field.kind ≠ .blob) := by
  obtain ⟨naming, descriptor, resolved⟩ := accepted
  have declares (field : Field) (member : field ∈ model.fields) (definition : String)
      (written : columnDefinition model .mySql field = .ok definition) :
      model.DeclaresType field definition :=
    declaresType_of_columnDefinition (Schema.isIndexed_iff resolved member)
      (unstated field member) written
  obtain ⟨columns, defined, rfl⟩ := Outcome.map_eq_ok.mp written
  have fields : List.Forall₂ model.DeclaresType model.fields columns :=
    Outcome.forall₂_of_mapM declares defined
  refine ⟨⟨columns, _, by rw [← List.append_assoc]; rfl, fields⟩, ?_, ?_⟩
  · intro bounded field member keyed isBlob
    obtain ⟨definition, -, declared⟩ := Outcome.exists_of_forall₂ fields.flip member
    exact bounded field member keyed definition declared.written
      (by simp [declared.isBlob.mpr isBlob])
  · intro noBytes field member keyed definition written
    have declared := declares field member definition written
    simp only [List.mem_cons, List.not_mem_nil, or_false, not_or]
    exact ⟨fun isText => (declared.isText.mp isText).2.2 keyed,
      fun isBlob => noBytes field member keyed (declared.isBlob.mp isBlob)⟩

/-- A description with a key, with two texts that share an index, and with a text and bytes that
have none. -/
def subscriber : RecordDescriptor where
  name := "Subscriber"
  table := none
  fields := [⟨"id", .uuid, false, "primaryKey"⟩,
    ⟨"list", .text, false, "size:40; uniqueIndex:uix_list_address"⟩,
    ⟨"address", .text, false, "uniqueIndex:uix_list_address"⟩, ⟨"remark", .text, true, ""⟩,
    ⟨"photo", .blob, true, ""⟩]
  hooks := []

/-- The types that cannot be indexed stand where they may. -/
theorem tableStatements_boundedKeys_iff_subscriber :
    ∃ model statements, model.IsAccepted ∧ (∀ field ∈ model.fields, field.sqlType = none) ∧
      tableStatements model .mySql = .ok statements ∧
      statements = ["CREATE TABLE IF NOT EXISTS `subscribers` (`id` CHAR(36) PRIMARY KEY, " ++
        "`list` VARCHAR(40) NOT NULL, `address` VARCHAR(255) NOT NULL, `remark` TEXT, " ++
        "`photo` BLOB, UNIQUE INDEX `uix_list_address` (`list`, `address`))"] ∧
      (∃ columns further,
        statements = ["CREATE TABLE IF NOT EXISTS " ++ Dialect.mySql.quote model.table ++ " (" ++
          ", ".intercalate (columns ++ further) ++ ")"] ∧
        List.Forall₂ model.DeclaresType model.fields columns) ∧
      model.HasBoundedKeys := by
  have found : ((Schema.resolve .snakeCasePlural subscriber).2.toOption.map fun model =>
      ((tableStatements model .mySql).toOption,
        decide ((∀ field ∈ model.fields, field.sqlType = none) ∧
          ∀ field ∈ model.fields, model.IsKeyedOrIndexed field → field.kind ≠ .blob))) =
      some (some ["CREATE TABLE IF NOT EXISTS `subscribers` (`id` CHAR(36) PRIMARY KEY, " ++
        "`list` VARCHAR(40) NOT NULL, `address` VARCHAR(255) NOT NULL, `remark` TEXT, " ++
        "`photo` BLOB, UNIQUE INDEX `uix_list_address` (`list`, `address`))"], true) := by
    decide +kernel
  obtain ⟨model, resolved, looked⟩ := Option.map_eq_some_iff.mp found
  obtain ⟨written, fits⟩ := Prod.mk.inj looked
  obtain ⟨unstated, noBytes⟩ := of_decide_eq_true fits
  rw [Outcome.toOption_eq_some] at resolved written
  have accepted : model.IsAccepted := ⟨_, _, resolved⟩
  have declared := tableStatements_boundedKeys_iff accepted unstated written
  exact ⟨model, _, accepted, unstated, written, rfl, declared.1, declared.2.mpr noBytes⟩

/-- A description with a key of bytes. -/
def chunk : RecordDescriptor where
  name := "Chunk"
  table := none
  fields := [⟨"digest", .blob, false, "primaryKey"⟩, ⟨"body", .blob, false, ""⟩]
  hooks := []

/-- The key has a type that cannot be indexed. -/
theorem chunk_unboundedKey :
    ∃ model, (Schema.resolve .snakeCasePlural chunk).2 = .ok model ∧
      (∀ field ∈ model.fields, field.sqlType = none) ∧
      tableStatements model .mySql =
        .ok ["CREATE TABLE IF NOT EXISTS `chunks` (`digest` BLOB PRIMARY KEY, " ++
          "`body` BLOB NOT NULL)"] ∧
      ¬ model.HasBoundedKeys := by
  have found : ((Schema.resolve .snakeCasePlural chunk).2.toOption.map fun model =>
      ((tableStatements model .mySql).toOption,
        decide ((∀ field ∈ model.fields, field.sqlType = none) ∧
          ∃ field ∈ model.fields, model.IsKeyedOrIndexed field ∧
            (columnDefinition model .mySql field).toOption = some "`digest` BLOB PRIMARY KEY"))) =
      some (some ["CREATE TABLE IF NOT EXISTS `chunks` (`digest` BLOB PRIMARY KEY, " ++
        "`body` BLOB NOT NULL)"], true) := by
    decide +kernel
  obtain ⟨model, resolved, looked⟩ := Option.map_eq_some_iff.mp found
  obtain ⟨written, declared⟩ := Prod.mk.inj looked
  obtain ⟨unstated, field, member, keyed, defined⟩ := of_decide_eq_true declared
  rw [Outcome.toOption_eq_some] at resolved written defined
  exact ⟨model, resolved, unstated, written, fun bounded =>
    bounded field member keyed _ defined (by decide)⟩

end

end RecordMapper
