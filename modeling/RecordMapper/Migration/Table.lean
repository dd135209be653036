/-
This file writes the statements that create a model's table. The table lists its columns in the
order of the fields, then one constraint for several keys together; a single key is declared in
its own column. Indexes follow within the table or as statements of their own, as the dialect
wants them. Nothing is created twice.
-/

import RecordMapper.Dialect.Basic

namespace RecordMapper

/-! ### Parts of a table -/

/-- The definition of a field's column, or why it has none. -/
def columnDefinition (model : Model) (dialect : Dialect) (field : Field) : Except Error String :=
  match dialect.columnType field with
  | .ok type => .ok (dialect.quote field.column ++ " " ++ type)
  | .error fault => .error (.unsupportedType model.name field.name fault)

/-- The constraint for several keys together. -/
def keyConstraints (model : Model) (dialect : Dialect) : List String :=
  if 1 < model.primaryKeys.length then
    ["PRIMARY KEY (" ++ dialect.quoteAll (model.primaryKeys.map Field.column) ++ ")"]
  else []

/-- The word that stands before an index, by its uniqueness. -/
def Index.word (index : Index) : String :=
  if index.isUnique then "UNIQUE INDEX " else "INDEX "

/-- The definition of an index within a table. -/
def inlineIndex (dialect : Dialect) (index : Index) : String :=
  index.word ++ dialect.quote index.name ++ " (" ++ dialect.quoteAll index.columns ++ ")"

/-- The statement that creates an index on a table. -/
def indexStatement (model : Model) (dialect : Dialect) (index : Index) : String :=
  "CREATE " ++ index.word ++ "IF NOT EXISTS " ++ dialect.quote index.name ++ " ON " ++
    dialect.quote model.table ++ " (" ++ dialect.quoteAll index.columns ++ ")"

/-! ### Statements -/

/-- The statements that create a model's table and its indexes. -/
def tableStatements (model : Model) (dialect : Dialect) : Except Error (List String) :=
  (model.fields.mapM (columnDefinition model dialect)).map fun columns =>
    let inline := if dialect.hasInlineIndexes then model.indexes.map (inlineIndex dialect) else []
    let separate :=
      if dialect.hasInlineIndexes then [] else model.indexes.map (indexStatement model dialect)
    let definitions := ", ".intercalate (columns ++ keyConstraints model dialect ++ inline)
    let table := "CREATE TABLE IF NOT EXISTS " ++ dialect.quote model.table
    (table ++ " (" ++ definitions ++ ")") :: separate

end RecordMapper
