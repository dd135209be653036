/-
This file proves that the places that are kept of fields lead to the fields. A table into which the
names of a list are entered one after the other gives each name its last place in the list, and so
its only place where no two are the same. The places of the keys are those of the fields that are
keys, in order, and marking the only key changes nothing of a field but its mark.
-/

import Mathlib.Data.List.Induction
import Mathlib.Data.List.Nodup
import RecordMapper.Schema.Parser

namespace RecordMapper

/-! ### Tables of places -/

namespace PlaceTable

/-- The table of the names of a list, each at its place. -/
def ofNames (names : List String) : PlaceTable where
  entries := names.zipIdx.reverse

variable {names : List String} {name : String} {place : Nat}

theorem ofNames_append_singleton (names : List String) (name : String) :
    ofNames (names ++ [name]) = (ofNames names).enter name names.length := by
  simp [ofNames, enter, List.zipIdx_append]

theorem place?_enter (table : PlaceTable) (name other : String) (place : Nat) :
    (table.enter name place).place? other =
      if other = name then some place else table.place? other := by
  rw [place?, enter, List.lookup_cons]
  by_cases same : other = name
  · rw [if_pos same, beq_iff_eq.mpr same]
  · rw [if_neg same, beq_eq_false_iff_ne.mpr same]
    rfl

/-- What stands at a place of a list that has been continued by an element is what stood there, or
the element at the end. -/
theorem getElem?_append_singleton {α : Type} {earlier : List α} {last each : α} :
    (earlier ++ [last])[place]? = some each ↔
      earlier[place]? = some each ∨ place = earlier.length ∧ each = last := by
  rcases Nat.lt_trichotomy place earlier.length with inside | rfl | beyond
  · rw [List.getElem?_append_left inside]
    exact (or_iff_left fun ends => Nat.ne_of_lt inside ends.1).symm
  · rw [List.getElem?_concat_length, List.getElem?_eq_none (Nat.le_refl _)]
    simp [eq_comm]
  · have outside : (earlier ++ [last]).length ≤ place := by
      rw [List.length_append, List.length_singleton]
      exact beyond
    rw [List.getElem?_eq_none outside, List.getElem?_eq_none (Nat.le_of_lt beyond)]
    exact iff_of_false nofun fun ends => ends.elim nofun fun ends => Nat.ne_of_gt beyond ends.1

/-- A name stands for its last place. -/
theorem place?_ofNames : (ofNames names).place? name = some place ↔
    names[place]? = some name ∧ ∀ later, place < later → names[later]? ≠ some name := by
  induction names using List.reverseRecOn with
  | nil => simp [ofNames, place?]
  | append_singleton earlier last inductionHypothesis =>
    rw [ofNames_append_singleton, place?_enter]
    simp only [Ne, getElem?_append_singleton]
    by_cases same : name = last
    · simp only [same, if_true, and_true, Option.some.injEq]
      constructor
      · rintro rfl
        refine ⟨.inr rfl, fun later behind found => ?_⟩
        rcases found with found | rfl
        · exact absurd (List.getElem?_eq_some_iff.mp found).1 (by omega)
        · exact absurd behind (Nat.lt_irrefl _)
      · rintro ⟨found | rfl, isLast⟩
        · have inside := (List.getElem?_eq_some_iff.mp found).1
          exact absurd (.inr rfl) (isLast earlier.length inside)
        · rfl
    · simp only [same, if_false, and_false, or_false]
      exact inductionHypothesis

/-- A name that is not in the list stands for no place, and every other one for some place. -/
theorem place?_ofNames_eq_none : (ofNames names).place? name = none ↔ name ∉ names := by
  rw [place?, List.lookup_eq_none_iff]
  constructor
  · intro apart member
    obtain ⟨place, found⟩ := List.getElem?_of_mem member
    have listed := List.mem_reverse.mpr (List.mk_mem_zipIdx_iff_getElem?.mpr found)
    simpa using apart (name, place) listed
  · rintro absent ⟨other, place⟩ listed
    have found := List.mk_mem_zipIdx_iff_getElem?.mp (List.mem_reverse.mp listed)
    rw [bne_iff_ne]
    rintro rfl
    exact absent (List.mem_of_getElem? found)

/-- Where no two names are the same, a name stands for its place. -/
theorem place?_ofNames_of_nodup (distinct : names.Nodup) :
    (ofNames names).place? name = some place ↔ names[place]? = some name := by
  rw [place?_ofNames]
  refine and_iff_left_of_imp fun found later behind again => ?_
  obtain ⟨inside, -⟩ := List.getElem?_eq_some_iff.mp again
  exact List.nodup_iff_getElem?_ne_getElem?.mp distinct place later behind inside
    (found.trans again.symm)

/-! ### Following places -/

section

variable {α : Type} {elements : List α} {each : α} {view : α → String}

/-- The place that a name stands for leads to an element that goes by it. -/
theorem follows_of_bind
    (found : ((ofNames (elements.map view)).place? name).bind (elements[·]?) = some each) :
    each ∈ elements ∧ view each = name := by
  obtain ⟨place, stands, leads⟩ := Option.bind_eq_some_iff.mp found
  obtain ⟨called, -⟩ := place?_ofNames.mp stands
  rw [List.getElem?_map, leads] at called
  exact ⟨List.mem_of_getElem? leads, Option.some.inj called⟩

/-- A name leads nowhere exactly if no element goes by it. -/
theorem bind_eq_none :
    ((ofNames (elements.map view)).place? name).bind (elements[·]?) = none ↔
      ∀ each ∈ elements, view each ≠ name := by
  constructor
  · intro lost each member called
    cases stands : (ofNames (elements.map view)).place? name with
    | none =>
      refine place?_ofNames_eq_none.mp stands ?_
      exact called ▸ List.mem_map_of_mem member
    | some place =>
      obtain ⟨listed, -⟩ := place?_ofNames.mp stands
      rw [stands, Option.bind_some] at lost
      rw [List.getElem?_map, lost] at listed
      cases listed
  · intro apart
    rw [place?_ofNames_eq_none.mpr, Option.bind_none]
    intro listed
    obtain ⟨each, member, called⟩ := List.mem_map.mp listed
    exact apart each member called

/-- Where no two elements go by the same name, a name leads to exactly the element that goes by
it. -/
theorem bind_eq_some_of_nodup (distinct : (elements.map view).Nodup) :
    ((ofNames (elements.map view)).place? name).bind (elements[·]?) = some each ↔
      each ∈ elements ∧ view each = name := by
  refine ⟨follows_of_bind, ?_⟩
  rintro ⟨member, called⟩
  cases found : ((ofNames (elements.map view)).place? name).bind (elements[·]?) with
  | none => exact absurd called (bind_eq_none.mp found each member)
  | some other =>
    obtain ⟨otherMember, otherCalled⟩ := follows_of_bind found
    have same := List.inj_on_of_nodup_map distinct otherMember member
      (otherCalled.trans called.symm)
    rw [same]

end

end PlaceTable

namespace Schema

variable {fields : List Field} {place : Nat}

/-! ### The places of keys -/

theorem mem_keyPlaces : place ∈ keyPlaces fields ↔
    ∃ field, fields[place]? = some field ∧ field.isPrimaryKey = true := by
  simp [keyPlaces, List.mem_zipIdx_iff_getElem?]

theorem keyPlaces_pairwise (fields : List Field) : (keyPlaces fields).Pairwise (· < ·) := by
  have sublist : (keyPlaces fields).Sublist (fields.zipIdx.map Prod.snd) :=
    (List.filter_sublist).map _
  refine List.Pairwise.sublist sublist ?_
  rw [List.zipIdx_map_snd]
  exact List.pairwise_lt_range'

/-- The fields at the places of the keys are the keys. -/
theorem filterMap_keyPlaces (fields : List Field) :
    (keyPlaces fields).filterMap (fields[·]?) = fields.filter Field.isPrimaryKey := by
  calc
    (keyPlaces fields).filterMap (fields[·]?) =
        (fields.zipIdx.filter fun placed => placed.1.isPrimaryKey).filterMap
          fun placed => fields[placed.2]? := List.filterMap_map ..
    _ = (fields.zipIdx.filter fun placed => placed.1.isPrimaryKey).map Prod.fst :=
      List.filterMap_eq_map_iff_forall_eq_some.mpr fun placed member =>
        List.mem_zipIdx_iff_getElem?.mp (List.mem_filter.mp member).1
    _ = (fields.zipIdx.map Prod.fst).filter Field.isPrimaryKey := List.filter_map.symm
    _ = fields.filter Field.isPrimaryKey := by rw [List.zipIdx_map_fst]

/-- There are as many places of keys as there are keys. -/
theorem length_keyPlaces (fields : List Field) :
    (keyPlaces fields).length = (fields.filter Field.isPrimaryKey).length := by
  rw [← filterMap_keyPlaces, List.length_filterMap_eq_countP, eq_comm, List.countP_eq_length]
  intro place member
  obtain ⟨field, found, -⟩ := mem_keyPlaces.mp member
  rw [found]
  rfl

/-! ### Marking the only key -/

/-- A key that is alone is marked, and nothing else changes. -/
theorem markSoleKey_eq_map (fields : List Field) :
    markSoleKey fields = fields.map fun field =>
      if field.isPrimaryKey = true ∧ (keyPlaces fields).length = 1
        then { field with isInlineKey := true } else field := by
  unfold markSoleKey
  split
  · rename_i only alone
    refine List.ext_getElem? fun each => ?_
    rw [List.getElem?_modify, List.getElem?_map, alone]
    cases found : fields[each]? with
    | none => rfl
    | some field =>
      have isKey : field.isPrimaryKey = true ↔ only = each := by
        have listed : each ∈ keyPlaces fields ↔ field.isPrimaryKey = true := by
          simp [mem_keyPlaces, found]
        rw [← listed, alone, List.mem_singleton, eq_comm]
      simp [isKey]
  · rename_i several
    have notOne : (keyPlaces fields).length ≠ 1 := fun one => by
      obtain ⟨only, alone⟩ := List.length_eq_one_iff.mp one
      exact several only alone
    simp [notOne]

/-- What does not look at the mark is the same of the marked fields. -/
theorem map_markSoleKey {α : Type} (view : Field → α)
    (unmarked : ∀ field, view { field with isInlineKey := true } = view field)
    (fields : List Field) : (markSoleKey fields).map view = fields.map view := by
  rw [markSoleKey_eq_map, List.map_map]
  refine List.map_congr_left fun field _ => ?_
  rw [Function.comp_apply]
  split
  · exact unmarked field
  · rfl

/-- The marked fields have their keys at the same places. -/
theorem keyPlaces_markSoleKey (fields : List Field) :
    keyPlaces (markSoleKey fields) = keyPlaces fields := by
  have keys := map_markSoleKey Field.isPrimaryKey (fun _ => rfl) fields
  have placed (fields : List Field) : keyPlaces fields =
      (((fields.map Field.isPrimaryKey).zipIdx.filter Prod.fst).map Prod.snd) := by
    rw [keyPlaces, List.zipIdx_map, List.filter_map, List.map_map]
    rfl
  rw [placed, placed, keys]

end Schema

end RecordMapper
