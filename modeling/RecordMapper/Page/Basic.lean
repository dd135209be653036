/-
This file cuts the rows of a query into pages. Pages are counted from zero and all have room for
the same number of rows; a page leaves out the rows of those before it. The number of pages is
that of all rows by the room of one, rounded up. Both are kept within 64 bits: a page too far out
leaves out the greatest number of rows there is.
-/

import RecordMapper.Query.Load

namespace RecordMapper

/-- A page and how many rows it has room for. -/
structure Page where
  number : UInt64 := 0
  limit : UInt64 := 10
  deriving DecidableEq

/-- The rows of a page and the extent of the whole. -/
structure PageContent where
  records : List Record
  total : Int64
  page : Page
  totalPages : Int64

namespace Page

/-- The page that is meant where none is stated. -/
def usual : Page := {}

/-- How many rows come before the page. -/
def offset (page : Page) : UInt64 :=
  UInt64.ofNat (min (page.number.toNat * page.limit.toNat) (Nat.pow 2 64 - 1))

/-- How many pages a number of rows fills. -/
def totalPages (page : Page) (total : Int64) : Int64 :=
  if page.limit = 0 ∨ total ≤ 0 then 0
  else
    let room := page.limit.toNat
    Int64.ofInt (min ((total.toInt.toNat + room - 1) / room) (Nat.pow 2 63 - 1) : Nat)

/-- The query for the rows of the page. -/
def apply (page : Page) (query : Query) : Query :=
  (query.take page.limit).skip page.offset

/-- Counts the rows of a query and loads those of the page. -/
def load {Held : Type} (page : Page) (query : Query) : Operation Held PageContent := do
  let total ← query.count
  let records ← (page.apply query).scan
  return ⟨records, total, page, page.totalPages total⟩

end Page

end RecordMapper
