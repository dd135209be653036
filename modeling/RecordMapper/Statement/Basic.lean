/-
This file holds statements: a text in SQL and the arguments that its markers stand for, each with
the kind it is declared with. Statements are put together from fragments, of which each is a text
or an argument. An argument is written as the dialect's marker for its position and the cast for
its kind, so markers and arguments are counted together by construction.
-/

import RecordMapper.Dialect.Basic

namespace RecordMapper

/-- An argument: a value and the kind of the column that it is meant for. -/
abbrev Argument := Value × Kind

/-- A text in SQL and its arguments in order. -/
structure Statement where
  sql : String := ""
  arguments : List Argument := []
  deriving DecidableEq

/-- A part of a statement that is not yet written in a dialect. -/
inductive Fragment
  | text (sql : String)
  | argument (argument : Argument)

namespace Statement

/-- The statement without arguments. -/
def ofText (sql : String) : Statement :=
  { sql := sql }

/-- The statement with more text at its end. -/
def append (statement : Statement) (sql : String) : Statement :=
  { statement with sql := statement.sql ++ sql }

/-- The statement with one more argument, and its marker at the end of the text. -/
def bind (statement : Statement) (dialect : Dialect) (argument : Argument) : Statement :=
  let marker := dialect.placeholder (statement.arguments.length + 1)
  { sql := statement.sql ++ marker ++ dialect.bindCast argument.2
    arguments := statement.arguments ++ [argument] }

/-- The statement with one more fragment. -/
def add (dialect : Dialect) (statement : Statement) : Fragment → Statement
  | .text sql => statement.append sql
  | .argument argument => statement.bind dialect argument

/-- The statement that fragments make up in a dialect. -/
def ofFragments (dialect : Dialect) (fragments : List Fragment) : Statement :=
  fragments.foldl (Statement.add dialect) {}

end Statement

/-- Fragments of several items with a text between neighbours. -/
def separated (separator : String) : List (List Fragment) → List Fragment
  | [] => []
  | [item] => item
  | item :: rest => item ++ .text separator :: separated separator rest

end RecordMapper
