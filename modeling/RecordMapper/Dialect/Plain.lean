/-
This file is the dialect of no product at all: it answers only what every dialect has to, by
names made up from the kinds, and it cannot bind dates and times. It shows what the library does
by itself.
-/

import RecordMapper.Dialect.Basic

namespace RecordMapper

/-- A dialect without peculiarities. -/
def Dialect.plain : Dialect where
  name := "plain"
  baseType field := .ok ("T_" ++ String.ofList (field.kind.word.toList.map Char.toUpper))
  unboundedLimit := "MAX"
  temporalText _ := none
  historyTable table _ := "HISTORY " ++ table

end RecordMapper
