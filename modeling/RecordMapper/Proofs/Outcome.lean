/-
This file says when a computation that may fail succeeds. Each way of combining such computations
gets the condition under which the whole has a result, so that a successful run can be taken apart
into the successes of its parts.
-/

import Mathlib.Data.List.Forall2

namespace RecordMapper.Outcome

variable {Fault Other First Second : Type}

theorem bind_eq_ok {given : Except Fault First} {next : First → Except Fault Second}
    {result : Second} :
    (given >>= next) = .ok result ↔ ∃ middle, given = .ok middle ∧ next middle = .ok result := by
  cases given <;> simp [bind, Except.bind]

theorem bind_eq_error {given : Except Fault First} {next : First → Except Fault Second}
    {fault : Fault} :
    (given >>= next) = .error fault ↔
      given = .error fault ∨ ∃ middle, given = .ok middle ∧ next middle = .error fault := by
  cases given <;> simp [bind, Except.bind]

theorem map_eq_ok {given : Except Fault First} {change : First → Second} {result : Second} :
    given.map change = .ok result ↔ ∃ value, given = .ok value ∧ change value = result := by
  cases given <;> simp [Except.map]

theorem map_eq_error {given : Except Fault First} {change : First → Second} {fault : Fault} :
    given.map change = .error fault ↔ given = .error fault := by
  cases given <;> simp [Except.map]

theorem mapError_eq_ok {given : Except Fault First} {change : Fault → Other} {result : First} :
    given.mapError change = .ok result ↔ given = .ok result := by
  cases given <;> simp [Except.mapError]

theorem toOption_eq_some {given : Except Fault First} {result : First} :
    given.toOption = some result ↔ given = .ok result := by
  cases given <;> simp [Except.toOption]

/-- The fault of an outcome, if it is one. -/
def errorOf : Except Fault First → Option Fault
  | .ok _ => none
  | .error fault => some fault

theorem errorOf_eq_some {outcome : Except Fault First} {fault : Fault} :
    errorOf outcome = some fault ↔ outcome = .error fault := by
  cases outcome <;> simp [errorOf]

/-- A list of computations succeeds if each of them does, and then has all their results. -/
theorem mapM_eq_ok {compute : First → Except Fault Second} {given : List First}
    {results : List Second} :
    given.mapM compute = .ok results ↔
      List.Forall₂ (fun value result => compute value = .ok result) given results := by
  induction given generalizing results with
  | nil =>
    rw [List.mapM_nil, List.forall₂_nil_left_iff]
    constructor
    · intro equal
      cases equal
      rfl
    · rintro rfl
      rfl
  | cons value rest inductionHypothesis =>
    rw [List.mapM_cons, bind_eq_ok]
    constructor
    · rintro ⟨first, computed, equal⟩
      obtain ⟨others, found, equal⟩ := bind_eq_ok.mp equal
      cases equal
      exact .cons computed (inductionHypothesis.mp found)
    · intro each
      cases each with
      | cons computed others =>
        exact ⟨_, computed, bind_eq_ok.mpr ⟨_, inductionHypothesis.mpr others, rfl⟩⟩

/-- A list of computations in two parts succeeds if both parts do. -/
theorem mapM_append_eq_ok {compute : First → Except Fault Second} {opening closing : List First}
    {results : List Second} :
    (opening ++ closing).mapM compute = .ok results ↔
      ∃ early late, results = early ++ late ∧ opening.mapM compute = .ok early ∧
        closing.mapM compute = .ok late := by
  rw [List.mapM_append, bind_eq_ok]
  constructor
  · rintro ⟨early, opened, equal⟩
    obtain ⟨late, closed, equal⟩ := bind_eq_ok.mp equal
    cases equal
    exact ⟨early, late, rfl, opened, closed⟩
  · rintro ⟨early, late, rfl, opened, closed⟩
    exact ⟨early, opened, bind_eq_ok.mpr ⟨late, closed, rfl⟩⟩

/-- Every member of the second of two related lists is related to a member of the first. -/
theorem exists_of_forall₂ {related : First → Second → Prop} {given : List First}
    {results : List Second} (each : List.Forall₂ related given results) {result : Second}
    (member : result ∈ results) : ∃ value ∈ given, related value result := by
  induction each with
  | nil => cases member
  | cons first _ inductionHypothesis =>
    rcases List.mem_cons.mp member with rfl | later
    · exact ⟨_, List.mem_cons_self, first⟩
    · obtain ⟨value, valueMember, holds⟩ := inductionHypothesis later
      exact ⟨value, List.mem_cons_of_mem _ valueMember, holds⟩

/-- If every member of a list is related to something, a list is related to it. -/
theorem exists_forall₂ {related : First → Second → Prop} {given : List First}
    (each : ∀ value ∈ given, ∃ result, related value result) :
    ∃ results, List.Forall₂ related given results := by
  induction given with
  | nil => exact ⟨[], .nil⟩
  | cons value rest inductionHypothesis =>
    obtain ⟨first, related⟩ := each value List.mem_cons_self
    obtain ⟨others, relatedRest⟩ := inductionHypothesis fun later member =>
      each later (List.mem_cons_of_mem _ member)
    exact ⟨first :: others, .cons related relatedRest⟩

/-- What holds between each of some values and what is computed from it holds all along a list. -/
theorem forall₂_of_mapM {compute : First → Except Fault Second} {holds : First → Second → Prop}
    {given : List First} {results : List Second}
    (each : ∀ value ∈ given, ∀ result, compute value = .ok result → holds value result)
    (computed : given.mapM compute = .ok results) : List.Forall₂ holds given results :=
  ((List.forall₂_and_left _ _).mpr ⟨each, mapM_eq_ok.mp computed⟩).imp
    fun _ result both => both.1 result both.2

/-- What holds of every result of each computation holds of all results of a list of them. -/
theorem forall_of_mapM {compute : First → Except Fault Second} {holds : Second → Prop}
    {given : List First} {results : List Second}
    (each : ∀ value result, compute value = .ok result → holds result)
    (computed : given.mapM compute = .ok results) : ∀ result ∈ results, holds result := by
  intro result member
  obtain ⟨value, -, found⟩ := exists_of_forall₂ (mapM_eq_ok.mp computed) member
  exact each value result found

/-- A list of computations fails as the first of them that fails. -/
theorem mapM_eq_error {compute : First → Except Fault Second} {given : List First} {fault : Fault} :
    given.mapM compute = .error fault ↔ ∃ earlier value later, given = earlier ++ value :: later ∧
      (∀ each ∈ earlier, ∃ result, compute each = .ok result) ∧ compute value = .error fault := by
  induction given with
  | nil =>
    constructor
    · intro failed
      cases failed
    · rintro ⟨earlier, value, later, split, -⟩
      simp at split
  | cons first rest inductionHypothesis =>
    rw [List.mapM_cons]
    cases computed : compute first with
    | error other =>
      constructor
      · intro failed
        cases failed
        exact ⟨[], first, rest, rfl, by simp, computed⟩
      · rintro ⟨earlier, value, later, split, succeeded, failed⟩
        cases earlier with
        | nil =>
          cases split
          cases computed.symm.trans failed
          rfl
        | cons head others =>
          cases split
          obtain ⟨result, found⟩ := succeeded first List.mem_cons_self
          cases computed.symm.trans found
    | ok result =>
      have onward : (Except.ok result >>= fun result =>
          rest.mapM compute >>= fun results => pure (result :: results)) = .error fault ↔
            rest.mapM compute = .error fault := by
        cases rest.mapM compute <;> simp [bind, Except.bind, pure, Except.pure]
      rw [onward, inductionHypothesis]
      constructor
      · rintro ⟨earlier, value, later, rfl, succeeded, failed⟩
        exact ⟨first :: earlier, value, later, rfl,
          List.forall_mem_cons.mpr ⟨⟨result, computed⟩, succeeded⟩, failed⟩
      · rintro ⟨earlier, value, later, split, succeeded, failed⟩
        cases earlier with
        | nil =>
          cases split
          cases computed.symm.trans failed
        | cons head others =>
          cases split
          exact ⟨others, value, later, rfl, (List.forall_mem_cons.mp succeeded).2, failed⟩

/-- A list of computations fails as one of them does. -/
theorem exists_of_mapM_eq_error {compute : First → Except Fault Second} {given : List First}
    {fault : Fault} (failed : given.mapM compute = .error fault) :
    ∃ value ∈ given, compute value = .error fault := by
  obtain ⟨earlier, value, later, rfl, -, found⟩ := mapM_eq_error.mp failed
  exact ⟨value, List.mem_append_right _ List.mem_cons_self, found⟩

end RecordMapper.Outcome
