/-
This file writes the statements of all operations. Each is made of fragments in a fixed order of
clauses, the conditions of the filters among them, and takes names only from the model: what a
caller supplies as data goes into arguments. Terms of an order are the one exception, which the
caller writes in SQL.
-/

import RecordMapper.Filter.Condition
import RecordMapper.Query.Basic

namespace RecordMapper

/-! ### Reading -/

/-- The fragments of the order of rows; no terms need no clause. -/
def orderFragments (order : List String) : List Fragment :=
  if order.isEmpty then [] else [.text (" ORDER BY " ++ ", ".intercalate order)]

/-- The statement that selects rows of a model's table. -/
def selectStatement (model : Model) (dialect : Dialect) (filters : List Filter)
    (order : List String) (limit offset : Option Nat) : Except Error Statement :=
  (conditions model filters).map fun found =>
    let columns := ", ".intercalate (model.fields.map dialect.selectColumn)
    Statement.ofFragments dialect <|
      .text ("SELECT " ++ columns ++ " FROM " ++ dialect.quote model.table) ::
        whereFragments dialect found ++ orderFragments order ++
          [.text (dialect.limitOffset limit offset)]

/-- The statement that counts rows of a model's table. -/
def countStatement (model : Model) (dialect : Dialect) (filters : List Filter) :
    Except Error Statement :=
  (conditions model filters).map fun found =>
    Statement.ofFragments dialect <|
      .text ("SELECT COUNT(*) FROM " ++ dialect.quote model.table) :: whereFragments dialect found

/-! ### Inserting -/

/-- The columns that the database is left to fill when they hold their default. -/
def momentColumns : List String := ["created_at", "updated_at"]

/-- Whether the database fills a column that holds its default. -/
def Field.isDatabaseFilled (field : Field) : Bool :=
  field.isAutoIncrement || momentColumns.contains field.column

/-- The fields whose values an insertion states. -/
def insertedFields (model : Model) (record : Record) : List Field :=
  model.fields.filter fun field =>
    !(field.isDatabaseFilled && (valueAt record field.position).isDefault)

/-- The argument for a field's value in a record. -/
def fieldArgument (record : Record) (field : Field) : Except Error Argument :=
  (coerceOperand field.kind (valueAt record field.position)).map fun value => (value, field.kind)

/-- The fragments of an insertion into the columns of fields. -/
def insertFragments (model : Model) (dialect : Dialect) (fields : List Field)
    (arguments : List Argument) : List Fragment :=
  if fields.isEmpty then [.text (dialect.insertDefaults model.table)]
  else
    let columns := dialect.quoteAll (fields.map Field.column)
    .text ("INSERT INTO " ++ dialect.quote model.table ++ " (" ++ columns ++ ") VALUES (") ::
      separated ", " (arguments.map fun argument => [.argument argument]) ++ [.text ")"]

/-- The statement that inserts a record, asking for what is returned if anything is. -/
def insertStatement (model : Model) (dialect : Dialect) (record : Record)
    (returning : Option String) : Except Error Statement :=
  let fields := insertedFields model record
  (fields.mapM (fieldArgument record)).map fun arguments =>
    Statement.ofFragments dialect <|
      insertFragments model dialect fields arguments ++
        match returning with
        | some clause => [.text clause]
        | none => []

/-! ### Changing and deleting -/

/-- A field and the value that it is to take. -/
abbrev Assignment := Field × Value

/-- The statement that changes rows of a model's table. -/
def updateStatement (model : Model) (dialect : Dialect) (assignments : List Assignment)
    (filters : List Filter) : Except Error Statement :=
  (conditions model filters).map fun found =>
    let settings := assignments.map fun (field, value) =>
      [Fragment.text (dialect.quote field.column ++ " = "), .argument (value, field.kind)]
    Statement.ofFragments dialect <|
      .text ("UPDATE " ++ dialect.quote model.table ++ " SET ") :: separated ", " settings ++
        whereFragments dialect found

/-- The statement that deletes rows of a model's table. -/
def deleteStatement (model : Model) (dialect : Dialect) (filters : List Filter) :
    Except Error Statement :=
  (conditions model filters).map fun found =>
    Statement.ofFragments dialect <|
      .text ("DELETE FROM " ++ dialect.quote model.table) :: whereFragments dialect found

/-! ### Keys -/

/-- The filter that a key of a record makes. -/
def keyFilter (record : Record) (key : Field) : Filter :=
  .compare .equal key.column (valueAt record key.position)

/-- The filters that the keys of a record make, if it has keys and none holds its default. -/
def keyFilters? (model : Model) (record : Record) : Option (List Filter) :=
  let keys := model.primaryKeys
  if keys.isEmpty || keys.any fun key => (valueAt record key.position).isDefault then none
  else some (keys.map (keyFilter record))

end RecordMapper
