/-
This file proves that the markers in a statement and its arguments belong together. Read from left
to right, with quoted names skipped, a statement has one marker for each of its arguments, in the
order of the arguments and numbered as they are, and each is followed by the cast for the kind with
which its argument is declared. Names of tables and columns may hold whatever they like, since
their quotes are doubled; only the terms of an order are the caller's, and they must neither have
markers of their own nor leave a quote open.
-/

import RecordMapper.Proofs.Query.Composition

namespace RecordMapper

open Sql

/-! ### Terms of an order -/

/-- A term has no marker in it, and every quote that is opened in it is closed. -/
def IsInert (quote : Char) (term : String) : Prop :=
  (Pending.after quote .nothing term.toList).isOutside = true ∧
    ∀ token ∈ tokens quote term.toList, token.isMarker = false

/-- A text that leaves no name open may stand between something settled and a separator. -/
theorem Sql.flows_of_isOutside {quote : Char} {text : List Char}
    (outside : (Pending.after quote .nothing text).isOutside = true) :
    Flows quote .free text .bound := by
  cases text with
  | nil => exact flows_nil.relax
  | cons first rest => exact flows_of_start outside

theorem IsInert.passage {quote : Char} {term : String} (inert : IsInert quote term) :
    Passage quote (fun token => token.isMarker = false) .free term .bound :=
  ⟨flows_of_isOutside inert.1, inert.2⟩

/-- All that the library writes itself is free of markers. -/
theorem permits_unmarked (words : List String) (model : Model) :
    Permits (fun token => token.isMarker = false) words model where
  bare token isBare := by
    cases token with
    | marker text => cases isBare
    | _ => rfl
  table := rfl
  column _ _ := rfl

/-! ### Markers and arguments -/

/-- In whatever a query sends, the markers are those of the arguments, in order and each with the
cast for its kind, and every argument is absent or of the variant that its kind names. This holds
under all dialects of the library and under every other that is lawful. -/
theorem Query.markers_aligned :
    (∀ entry ∈ DialectRegistry.standard.entries, entry.2.IsLawful Dialect.productWords) ∧
    ∀ (query : Query) (words : List String), query.dialect.IsLawful words →
      (∀ term ∈ query.order, IsInert query.dialect.quoteCharacter term) →
      ∀ (use : Use) {State : Type} (environment : Environment State) (state : State),
        ∀ statement ∈ statements (use.exchanges environment state query),
          List.Forall₂ (Marks query.dialect) (statement.arguments.zipIdx 1)
            (markers query.dialect.quoteCharacter statement.sql.toList) ∧
          ∀ argument ∈ statement.arguments, IsTyped argument := by
  refine ⟨DialectRegistry.isLawful_standard, ?_⟩
  intro query words lawful inert use State environment state statement member
  obtain ⟨place, sent⟩ := List.mem_iff_getElem?.mp member
  obtain ⟨model, plan, -, plans, built⟩ := use.plans environment state sent
  have permitted := permits_unmarked words model
  have fits : plan.Fits query.dialect (fun token => token.isMarker = false) model := by
    rcases plans.fits_or_ordered lawful permitted with fits | ⟨filters, limit, offset, rfl⟩
    · exact fits
    · exact fun term termMember => (inert term termMember).passage
  obtain ⟨fragments, rfl, composes⟩ := plan.composes lawful permitted fits built
  rw [ofFragments_eq]
  exact ⟨composes.marks lawful (fun _ unmarked => unmarked) 0, composes.typed⟩

/-- The query on the free seats of the first two rows. -/
def Query.frontSeats : Query :=
  (freeSeats.filter (.among false "row" [.int 1, .int 2])).orderBy "\"number\" DESC"

/-- The front seats are searched for with two markers, for the numbers of the rows. -/
theorem Query.markers_aligned_frontSeats :
    frontSeats.dialect.IsLawful Dialect.productWords ∧
      (∀ term ∈ frontSeats.order, IsInert frontSeats.dialect.quoteCharacter term) ∧
      ∃ statement ∈ statements ((Use.find []).exchanges .empty () frontSeats),
        statement.arguments = [(.int 1, .int), (.int 2, .int)] ∧
        List.Forall₂ (Marks frontSeats.dialect) (statement.arguments.zipIdx 1)
          (markers frontSeats.dialect.quoteCharacter statement.sql.toList) := by
  have lawful : frontSeats.dialect.IsLawful Dialect.productWords := Dialect.isLawful_postgres
  have inert (term : String) (member : term ∈ frontSeats.order) :
      IsInert frontSeats.dialect.quoteCharacter term := by
    rw [List.mem_singleton.mp member]
    exact ⟨by decide, by decide⟩
  have sent : (statements ((Use.find []).exchanges .empty () frontSeats)).map
      Statement.arguments = [[(.int 1, .int), (.int 2, .int)]] := by decide +kernel
  obtain ⟨statement, member, arguments⟩ :=
    List.mem_map.mp (sent ▸ List.mem_singleton.mpr rfl)
  exact ⟨lawful, inert, statement, member, arguments,
    (markers_aligned.2 frontSeats _ lawful inert (.find []) .empty () statement member).1⟩

end RecordMapper
