/-
This file says where the values of a row's cells come to stand in a record. Each is put at the place
of its field; where no two fields have a place in common none is lost, and a place that no field has
stays as it was.
-/

import RecordMapper.Record.Loading

namespace RecordMapper

variable {found : List (Field × Value)} {values : List Value}

theorem length_placeValues : (placeValues values found).length = values.length := by
  induction found generalizing values with
  | nil => rfl
  | cons first rest inductionHypothesis =>
    exact inductionHypothesis.trans List.length_set

/-- A place for which nothing was found stays as it was. -/
theorem getElem?_placeValues {place : Nat}
    (absent : ∀ pair ∈ found, pair.1.position ≠ place) :
    (placeValues values found)[place]? = values[place]? := by
  induction found generalizing values with
  | nil => rfl
  | cons first rest inductionHypothesis =>
    exact (inductionHypothesis fun pair member =>
        absent pair (List.mem_cons_of_mem _ member)).trans
      (List.getElem?_set_ne (absent first List.mem_cons_self))

/-- What was found for a field is at its place, if no two fields have a place in common. -/
theorem getElem?_placeValues_of_nodup (apart : (found.map fun pair => pair.1.position).Nodup)
    {field : Field} {value : Value} (member : (field, value) ∈ found)
    (inside : field.position < values.length) :
    (placeValues values found)[field.position]? = some value := by
  induction found generalizing values with
  | nil => cases member
  | cons first rest inductionHypothesis =>
    obtain ⟨later, others⟩ := List.nodup_cons.mp apart
    rcases List.mem_cons.mp member with rfl | member
    · have untouched : ∀ pair ∈ rest, pair.1.position ≠ field.position := fun pair listed same =>
        later (List.mem_map.mpr ⟨pair, listed, same⟩)
      exact (getElem?_placeValues untouched).trans (List.getElem?_set_self inside)
    · exact inductionHypothesis others member (by rwa [List.length_set])

/-- Fields whose places grow have no place in common. -/
theorem getElem?_placeValues_of_mem
    (apart : (found.map fun pair => pair.1.position).Pairwise (· < ·)) {field : Field}
    {value : Value} (member : (field, value) ∈ found) (inside : field.position < values.length) :
    (placeValues values found)[field.position]? = some value :=
  getElem?_placeValues_of_nodup (apart.imp Nat.ne_of_lt) member inside

/-- Fields whose places grow have none in common, however many of them values are given for. -/
theorem pairwise_position_zip {fields : List Field}
    (ordered : (fields.map Field.position).Pairwise (· < ·)) (values : List Value) :
    ((fields.zip values).map fun pair => pair.1.position).Pairwise (· < ·) := by
  rw [List.pairwise_map] at ordered ⊢
  induction ordered generalizing values with
  | nil => exact .nil
  | cons later _ inductionHypothesis =>
    cases values with
    | nil => exact .nil
    | cons value values =>
      exact .cons (fun pair member => later _ (List.of_mem_zip member).1)
        (inductionHypothesis values)

end RecordMapper
