/-
This file proves that pages cut the rows of a query without gap and without overlap. The limit and
the offset that a page puts on a query select a window of the rows. Both are kept within 63 bits,
and the offset has been kept within 64 before; as there are never more rows than 63 bits count, a
row lies in a window exactly where it would lie if numbers had no bound. From there on it is a
matter of division: the page of a row is its place divided by the room of a page, and there are as
many pages as have a row.
-/

import RecordMapper.Dialect.Sqlite
import RecordMapper.Page.Basic
import Mathlib.Logic.ExistsUnique
import Mathlib.Order.Basic

namespace RecordMapper

/-! ### What limit and offset select -/

/-- The rows that a query selects of those that match it, in their fixed order: the offset is left
out first, and of the others the limit is taken, or all of them without one. -/
def Query.window {Row : Type} (query : Query) (rows : List Row) : List Row :=
  let others := rows.drop (query.offset.getD 0)
  match query.limit with
  | some limit => others.take limit
  | none => others

namespace Page

open RecordMapper.Text

/-- The places, counted from zero, of the rows that a page shows of so many. -/
def window (page : Page) (query : Query) (total : Nat) : List Nat :=
  (page.apply query).window (List.range total)

/-! ### Numbers that are kept within bounds -/

/-- The offset of a page is the product, or the greatest number of 64 bits in its place. -/
theorem toNat_offset (page : Page) :
    page.offset.toNat = min (page.number.toNat * page.limit.toNat) (Nat.pow 2 64 - 1) := by
  have bound : Nat.pow 2 64 = 18446744073709551616 := by decide
  rw [offset, UInt64.toNat_ofNat']
  exact Nat.mod_eq_of_lt (by omega)

/-- A page puts both numbers on its query, each kept within 63 bits. -/
theorem limits_apply (page : Page) (query : Query) :
    (page.apply query).limit = some (min page.limit.toNat mostRows) ∧
      (page.apply query).offset =
        some (min (page.number.toNat * page.limit.toNat) mostRows) := by
  have bound : Nat.pow 2 64 = 18446744073709551616 := by decide
  have most : mostRows = 9223372036854775807 := by decide
  refine ⟨rfl, congrArg some ?_⟩
  rw [toNat_offset]
  omega

/-- The quotient of two words, rounded up, in the arithmetic of words. -/
def roundedUp (dividend divisor : UInt64) : UInt64 :=
  if dividend % divisor = 0 then dividend / divisor else dividend / divisor + 1

/-- Rounding up does not leave the range of words. -/
theorem toNat_roundedUp {dividend divisor : UInt64} (room : 0 < divisor.toNat) :
    (roundedUp dividend divisor).toNat =
      (dividend.toNat + divisor.toNat - 1) / divisor.toNat := by
  have split := Nat.div_add_mod dividend.toNat divisor.toNat
  have left := Nat.mod_lt dividend.toNat room
  have below := dividend.toNat_lt
  rw [Nat.mul_comm] at split
  symm
  unfold roundedUp
  by_cases even : dividend % divisor = 0
  · have divides : dividend.toNat % divisor.toNat = 0 := by
      rw [← UInt64.toNat_mod, even]
      rfl
    rw [if_pos even, UInt64.toNat_div, Nat.div_eq_iff room]
    omega
  · have uneven : dividend.toNat % divisor.toNat ≠ 0 := fun divides =>
      even (UInt64.toNat_inj.mp (by rw [UInt64.toNat_mod, divides]; rfl))
    have halved : dividend.toNat / divisor.toNat ≤ dividend.toNat / 2 :=
      Nat.div_le_div_left (by omega) (by omega)
    rw [if_neg even, UInt64.toNat_add, UInt64.toNat_div, UInt64.toNat_one,
      Nat.mod_eq_of_lt (by omega), Nat.div_eq_iff room, Nat.add_mul]
    omega

/-- The number of pages is that of the rows by the room of a page, rounded up; with room for a row
it is never more than the number of rows, so that it is not cut off. -/
theorem toInt_totalPages (page : Page) {total : Int64} (counted : 0 ≤ total)
    (room : 0 < page.limit.toNat) :
    (page.totalPages total).toInt =
      ((total.toInt.toNat + page.limit.toNat - 1) / page.limit.toNat : Nat) := by
  have hasRoom : page.limit ≠ 0 := fun roomless => by
    rw [roomless] at room
    exact absurd room (by decide)
  have least : (0 : Int) ≤ total.toInt := Int64.le_iff_toInt_le.mp counted
  have most : total.toInt < 9223372036854775808 := total.toInt_lt
  have bound : Nat.pow 2 63 = 9223372036854775808 := by decide
  have pages : (total.toInt.toNat + page.limit.toNat - 1) / page.limit.toNat ≤
      total.toInt.toNat := by
    have single := Nat.le_mul_of_pos_left total.toInt.toNat room
    rw [Nat.div_le_iff_le_mul_add_pred room]
    omega
  have kept {value : Nat} (small : value ≤ total.toInt.toNat) :
      (Int64.ofInt (min value (Nat.pow 2 63 - 1) : Nat)).toInt = value := by
    rw [Nat.min_eq_left (by omega), Int64.toInt_ofInt_of_le (by omega) (by omega)]
  unfold totalPages
  by_cases empty : total ≤ 0
  · have zero : total.toInt = 0 := by
      have := Int64.le_iff_toInt_le.mp empty
      exact Int.le_antisymm this least
    rw [if_pos (.inr empty), zero, Int.toNat_zero, Nat.zero_add,
      Nat.div_eq_of_lt (Nat.sub_lt room Nat.one_pos)]
    rfl
  · rw [if_neg (by simp only [hasRoom, empty, or_self, not_false_eq_true])]
    exact kept pages

/-! ### The rows of a page -/

section

variable {page : Page} {query : Query} {total index : Nat} (counted : total ≤ mostRows)

include counted

/-- Where no more rows are counted than 63 bits can count, the bounds do not matter: a page shows
the rows whose places lie between its first and the first of the next page. -/
theorem mem_window : index ∈ page.window query total ↔
    index < total ∧ page.number.toNat * page.limit.toNat ≤ index ∧
      index < page.number.toNat * page.limit.toNat + page.limit.toNat := by
  obtain ⟨limit, offset⟩ := page.limits_apply query
  simp only [window, Query.window, limit, offset, Option.getD_some, List.mem_take_iff_getElem,
    List.getElem_drop, List.getElem_range, List.length_drop, List.length_range]
  constructor
  · rintro ⟨place, within, rfl⟩
    omega
  · rintro ⟨listed, first, last⟩
    refine ⟨index - page.number.toNat * page.limit.toNat, ?_, ?_⟩ <;> omega

/-- A row lies on the page whose number is its place divided by the room of a page. -/
theorem mem_window_iff_div (room : 0 < page.limit.toNat) :
    index ∈ page.window query total ↔
      index < total ∧ index / page.limit.toNat = page.number.toNat := by
  rw [mem_window counted, Nat.div_eq_iff room]
  omega

/-- A page shows a row exactly if it has room and there is a row at its first place. -/
theorem window_ne_nil_iff : page.window query total ≠ [] ↔
    0 < page.limit.toNat ∧ page.number.toNat * page.limit.toNat < total := by
  constructor
  · intro shows
    obtain ⟨index, member⟩ := List.exists_mem_of_ne_nil _ shows
    obtain ⟨listed, first, last⟩ := (mem_window counted).mp member
    omega
  · rintro ⟨room, listed⟩
    refine List.ne_nil_of_mem (a := page.number.toNat * page.limit.toNat) ?_
    exact (mem_window counted).mpr ⟨listed, Nat.le_refl _, by omega⟩

end

/-! ### The pages of all rows -/

/-- A number of rows is one that 63 bits count. -/
theorem toNat_toInt_le (total : Int64) : total.toInt.toNat ≤ mostRows := by
  have below : total.toInt < 9223372036854775808 := total.toInt_lt
  have most : mostRows = 9223372036854775807 := by decide
  omega

/-- A page shows a row exactly if it is one of the pages that are counted. -/
theorem lt_totalPages_iff (page : Page) {query : Query} {total : Int64} (counted : 0 ≤ total)
    (room : 0 < page.limit.toNat) :
    (page.number.toNat : Int) < (page.totalPages total).toInt ↔
      page.window query total.toInt.toNat ≠ [] := by
  rw [page.toInt_totalPages counted room, window_ne_nil_iff (toNat_toInt_le total), Int.ofNat_lt,
    Nat.lt_div_iff_mul_lt room]
  omega

/-- What it means that the pages of one size cut so many rows without gap and without overlap. -/
structure Partition (query : Query) (limit : UInt64) (total : Int64) : Prop where
  /-- With room for a row, every row lies on exactly one page. -/
  once : 0 < limit → ∀ index < total.toInt.toNat,
    ∃! number : UInt64, index ∈ window ⟨number, limit⟩ query total.toInt.toNat
  /-- The page of a row is one of those that are counted. -/
  counted : ∀ (number : UInt64), ∀ index ∈ window ⟨number, limit⟩ query total.toInt.toNat,
    (number.toNat : Int) < (totalPages ⟨number, limit⟩ total).toInt
  /-- The pages that are counted show rows, and all others up to the last number show none. -/
  shows : 0 < limit → ∀ number : UInt64, window ⟨number, limit⟩ query total.toInt.toNat ≠ [] ↔
    (number.toNat : Int) < (totalPages ⟨number, limit⟩ total).toInt
  /-- Without room there are no pages, and none shows a row. -/
  roomless : limit = 0 → ∀ number : UInt64, totalPages ⟨number, limit⟩ total = 0 ∧
    window ⟨number, limit⟩ query total.toInt.toNat = []
  /-- The product of the offset stops at the greatest word. -/
  offset : ∀ number : UInt64, (Page.offset ⟨number, limit⟩).toNat =
    min (number.toNat * limit.toNat) (Nat.pow 2 64 - 1)
  /-- What is written at the end of the query has 63 bits. -/
  written : ∀ number : UInt64, let paged := apply ⟨number, limit⟩ query
    query.dialect.limitOffset paged.limit paged.offset =
      " LIMIT " ++ naturalText (min limit.toNat mostRows) ++
        " OFFSET " ++ naturalText (min (number.toNat * limit.toNat) mostRows)
  /-- The number of pages is what it is in the arithmetic of words, and it is not cut off. -/
  words : 0 < limit → ∀ number : UInt64, (totalPages ⟨number, limit⟩ total).toInt =
    (roundedUp (UInt64.ofNat total.toInt.toNat) limit).toNat

/-- Pages of one size cut the rows of a query without gap and without overlap, whatever their size
and however many rows 63 bits can count. -/
theorem windows_partition (query : Query) (limit : UInt64) (total : Int64) (counted : 0 ≤ total) :
    Partition query limit total := by
  have bounded := toNat_toInt_le total
  have most : mostRows = 9223372036854775807 := by decide
  have positive : 0 < limit ↔ 0 < limit.toNat := UInt64.lt_iff_toNat_lt
  refine
    { once := fun room index listed => ?_
      counted := fun number index member => ?_
      shows := fun room number =>
        (lt_totalPages_iff ⟨number, limit⟩ counted (positive.mp room)).symm
      roomless := fun roomless number => ?_
      offset := fun number => toNat_offset ⟨number, limit⟩
      written := fun number => ?_
      words := fun room number => ?_ }
  · refine ⟨UInt64.ofNat (index / limit.toNat), ?_, fun other member => ?_⟩
    · refine (mem_window_iff_div bounded (positive.mp room)).mpr ⟨listed, ?_⟩
      have quotient := Nat.div_le_self index limit.toNat
      rw [UInt64.toNat_ofNat_of_lt' (by show _ < 18446744073709551616; omega)]
    · have place := ((mem_window_iff_div bounded (positive.mp room)).mp member).2
      rw [place]
      exact (UInt64.ofNat_toNat).symm
  · obtain ⟨room, -⟩ := (window_ne_nil_iff bounded).mp (List.ne_nil_of_mem member)
    exact (lt_totalPages_iff ⟨number, limit⟩ counted room).mpr (List.ne_nil_of_mem member)
  · refine ⟨if_pos (.inl roomless), ?_⟩
    by_contra shows
    obtain ⟨room, -⟩ := (window_ne_nil_iff bounded).mp shows
    exact absurd roomless (UInt64.ne_of_lt (positive.mpr room)).symm
  · obtain ⟨limits, offsets⟩ := limits_apply ⟨number, limit⟩ query
    simp only [limits, offsets, Dialect.limitOffset]
  · rw [toInt_totalPages ⟨number, limit⟩ counted (positive.mp room),
      toNat_roundedUp (positive.mp room),
      UInt64.toNat_ofNat_of_lt' (by show _ < 18446744073709551616; omega)]

/-- A query on all departures. -/
def departures : Query where
  dialect := .sqlite
  type :=
    { identity := 0, name := "Departure", table := none, hooks := [], answers := []
      fields := [⟨"id", .typed ⟨.integer .int64, false⟩, "primaryKey"⟩] }
  model := (Schema.resolve .snakeCasePlural ⟨"Departure", none,
    [⟨"id", .bigInt, false, "primaryKey"⟩], []⟩).2

/-- With room for more rows than 63 bits count, the last row of the longest table lies on exactly
one page, and the second page is the first that is not counted. -/
theorem windows_partition_longest :
    0 ≤ Int64.maxValue ∧
      (∃! number : UInt64, 9223372036854775806 ∈
        window ⟨number, 9223372036854775808⟩ departures Int64.maxValue.toInt.toNat) ∧
        window ⟨1, 9223372036854775808⟩ departures Int64.maxValue.toInt.toNat = [] := by
  have partition := windows_partition departures 9223372036854775808 Int64.maxValue (by decide)
  refine ⟨by decide, partition.once (by decide) 9223372036854775806 (by decide), ?_⟩
  by_contra shows
  exact absurd ((partition.shows (by decide) 1).mp shows) (by decide)

end Page

end RecordMapper
