/-
This file follows an environment through a transcript. In each state an environment has one answer
to a request, and the request decides which state comes next. So the transcript of a program under
an environment leads from the state in which the program starts to the one in which it ends; what is
known of all transcripts of the program then says how it moves that environment.
-/

import RecordMapper.Proofs.Program.Transcript

namespace RecordMapper

variable {State : Type} {environment : Environment State}

namespace Environment

/-- Whether an exchange shows the answer that an environment has in a state. -/
def Gives (environment : Environment State) (state : State) : Exchange → Prop
  | .executed statement answer => (environment.execute statement state).1 = answer
  | .fetchedFirst statement answer => (environment.fetchFirst statement state).1 = answer
  | .fetchedAll statement answer => (environment.fetchAll statement state).1 = answer
  | .called call answer => (environment.call call state).1 = answer
  | .controlled step answer => (environment.control step state).1 = answer
  | .reported _ => True

/-- The state that comes after an exchange. -/
def following (environment : Environment State) (state : State) : Exchange → State
  | .executed statement _ => (environment.execute statement state).2
  | .fetchedFirst statement _ => (environment.fetchFirst statement state).2
  | .fetchedAll statement _ => (environment.fetchAll statement state).2
  | .called call _ => (environment.call call state).2
  | .controlled step _ => (environment.control step state).2
  | .reported entry => environment.report entry state

/-- A transcript of an environment leads from one state to another. -/
inductive Leads (environment : Environment State) : State → List Exchange → State → Prop
  | nil (state : State) : Leads environment state [] state
  | cons {state exchange rest final} : environment.Gives state exchange →
      Leads environment (environment.following state exchange) rest final →
      Leads environment state (exchange :: rest) final

theorem leads_nil {state final : State} : environment.Leads state [] final ↔ final = state := by
  constructor
  · rintro ⟨⟩
    rfl
  · rintro rfl
    exact .nil final

theorem leads_cons {state final : State} {exchange : Exchange} {rest : List Exchange} :
    environment.Leads state (exchange :: rest) final ↔ environment.Gives state exchange ∧
      environment.Leads (environment.following state exchange) rest final := by
  constructor
  · rintro ⟨⟩
    exact ⟨‹_›, ‹_›⟩
  · rintro ⟨gives, leads⟩
    exact .cons gives leads

theorem leads_append {state final : State} {opening closing : List Exchange} :
    environment.Leads state (opening ++ closing) final ↔
      ∃ middle, environment.Leads state opening middle ∧
        environment.Leads middle closing final := by
  induction opening generalizing state with
  | nil => simp [leads_nil]
  | cons exchange rest inductionHypothesis =>
    rw [List.cons_append, leads_cons, inductionHypothesis]
    simp only [leads_cons]
    constructor
    · rintro ⟨gives, middle, first, second⟩
      exact ⟨middle, ⟨gives, first⟩, second⟩
    · rintro ⟨middle, ⟨gives, first⟩, second⟩
      exact ⟨gives, middle, first, second⟩

/-- A single exchange leads to the state that comes after it. -/
theorem leads_singleton {state final : State} {exchange : Exchange} :
    environment.Leads state [exchange] final ↔
      environment.Gives state exchange ∧ final = environment.following state exchange := by
  rw [leads_cons, leads_nil]

end Environment

/-- A program leads its environment from the state in which it starts to the one in which it
ends. -/
theorem Program.leads_exchanges {Result : Type} (program : Program Result) (state : State) :
    environment.Leads state (program.exchanges environment state)
      (program.run environment state).2 := by
  induction program generalizing state with
  | done result => exact .nil state
  | execute statement next inductionHypothesis => exact .cons rfl (inductionHypothesis _ _)
  | fetchFirst statement next inductionHypothesis => exact .cons rfl (inductionHypothesis _ _)
  | fetchAll statement next inductionHypothesis => exact .cons rfl (inductionHypothesis _ _)
  | call call next inductionHypothesis => exact .cons rfl (inductionHypothesis _ _)
  | control step next inductionHypothesis => exact .cons rfl (inductionHypothesis _ _)
  | report entry next inductionHypothesis => exact .cons trivial (inductionHypothesis _)

end RecordMapper
