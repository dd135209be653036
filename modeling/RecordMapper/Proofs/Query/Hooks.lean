/-
This file says what the calls of hooks leave in a transcript. A hook before a statement is either
called once, and then its answer decides how the operation goes on, or it does not run and nothing
happens. The record and the changes that such a hook leaves behind can therefore be read from the
opening of a transcript. Hooks after a statement never fail an operation.
-/

import RecordMapper.Proofs.Program.Operation
import RecordMapper.Query.Hooks

namespace RecordMapper

open Operation

/-! ### What a hook leaves behind -/

/-- What a hook answered, if the exchange is a call of it. -/
def Exchange.hookReturn? (hook : Hook) : Exchange → Option HookReturn
  | .called call answer => if call.hook = hook then some answer else none
  | _ => none

/-- What a hook answered that is called at the opening of a transcript. -/
def openingReturn? (hook : Hook) (exchanges : List Exchange) : Option HookReturn :=
  exchanges.head?.bind (Exchange.hookReturn? hook)

/-- The record as the hook at the opening of a transcript leaves it. -/
def recordLeft (hook : Hook) (record : Record) (exchanges : List Exchange) : Record :=
  ((openingReturn? hook exchanges).map HookReturn.record).getD record

/-- The changes as the hook at the opening of a transcript leaves them. -/
def changesLeft (hook : Hook) (changes : Changes) (exchanges : List Exchange) : Changes :=
  ((openingReturn? hook exchanges).bind HookReturn.changes).getD changes

/-- Reports at the opening of a transcript, and what follows them if no hook is called first. -/
theorem openingReturn?_append_of_reported {hook : Hook} {reports later : List Exchange}
    (reported : ∀ exchange ∈ reports, ∃ entry, exchange = .reported entry)
    (uncalled : openingReturn? hook later = none) :
    openingReturn? hook (reports ++ later) = none := by
  cases reports with
  | nil => exact uncalled
  | cons first rest =>
    obtain ⟨entry, rfl⟩ := reported first List.mem_cons_self
    rfl

/-- A transcript that begins with a statement begins with no call of a hook. -/
theorem openingReturn?_of_sent {hook : Hook} {first : Exchange} {rest : List Exchange}
    {statement : Statement} (sent : first.statement? = some statement) :
    openingReturn? hook (first :: rest) = none := by
  cases first with
  | called call answer => cases sent
  | _ => rfl

/-- Reports send nothing. -/
theorem statements_of_reported {reports : List Exchange}
    (reported : ∀ exchange ∈ reports, ∃ entry, exchange = .reported entry) :
    statements reports = [] := by
  refine List.filterMap_eq_nil_iff.mpr fun exchange member => ?_
  obtain ⟨entry, rfl⟩ := reported exchange member
  rfl

namespace Hook

variable {hook : Hook} {model : Model} {type : RecordType} {record after : Record}
  {exchanges : List Exchange}

/-! ### Hooks before a statement -/

/-- A hook that runs is called on the record, and its answer is the outcome; any other hook does
nothing. -/
theorem runs_before {outcome : Except Error Unit} :
    Runs (hook.before model type) record exchanges outcome after ↔
      (hook.runsOn model type = true ∧ ∃ answer,
        exchanges = [.called ⟨hook, type, record, none⟩ answer] ∧
          outcome = answer.outcome ∧ after = answer.record) ∨
      (hook.runsOn model type = false ∧ exchanges = [] ∧ outcome = .ok () ∧ after = record) := by
  unfold before
  by_cases enabled : hook.runsOn model type = true
  · simp only [enabled, if_true, true_and, Bool.true_eq_false, false_and, or_false,
      runs_held_bind]
    constructor
    · intro runs
      rcases runs_bind.mp runs with ⟨error, failed, -⟩ |
        ⟨opening, answer, middle, closing, rfl, called, later⟩
      · obtain ⟨answer, -, equal, -⟩ := runs_call.mp failed
        cases equal
      · obtain ⟨given, rfl, equal, rfl⟩ := runs_call.mp called
        cases equal
        obtain ⟨rfl, rfl, rfl⟩ := runs_ofExcept.mp (runs_hold_bind.mp later)
        exact ⟨answer, rfl, rfl, rfl⟩
    · rintro ⟨answer, rfl, rfl, rfl⟩
      exact runs_bind.mpr (.inr ⟨_, answer, record, [], rfl,
        runs_call.mpr ⟨answer, rfl, rfl, rfl⟩, runs_ofExcept.mpr ⟨rfl, rfl, rfl⟩⟩)
  · simp only [enabled, Bool.false_eq_true, if_false, false_and, false_or, runs_pure, true_and]

/-- A hook that runs before an update is called on the record and the changes, and answers the
changes to be made. -/
theorem runs_beforeChanges {changes : Changes} {outcome : Except Error Changes} :
    Runs (hook.beforeChanges model type changes) record exchanges outcome after ↔
      (hook.runsOn model type = true ∧ ∃ answer,
        exchanges = [.called ⟨hook, type, record, some changes⟩ answer] ∧
          outcome = answer.outcome.map (fun _ => answer.changes.getD changes) ∧
          after = answer.record) ∨
      (hook.runsOn model type = false ∧ exchanges = [] ∧ outcome = .ok changes ∧
        after = record) := by
  unfold beforeChanges
  by_cases enabled : hook.runsOn model type = true
  · simp only [enabled, if_true, true_and, Bool.true_eq_false, false_and, or_false,
      runs_held_bind]
    constructor
    · intro runs
      rcases runs_bind.mp runs with ⟨error, failed, -⟩ |
        ⟨opening, answer, middle, closing, rfl, called, later⟩
      · obtain ⟨answer, -, equal, -⟩ := runs_call.mp failed
        cases equal
      · obtain ⟨given, rfl, equal, rfl⟩ := runs_call.mp called
        cases equal
        refine ⟨answer, ?_⟩
        rcases runs_ofExcept_bind.mp (runs_hold_bind.mp later) with
          ⟨error, failed, rfl, rfl, rfl⟩ | ⟨_, succeeded, rest⟩
        · exact ⟨rfl, by rw [failed]; rfl, rfl⟩
        · obtain ⟨rfl, rfl, rfl⟩ := runs_pure.mp rest
          exact ⟨rfl, by rw [succeeded]; rfl, rfl⟩
    · rintro ⟨answer, rfl, rfl, rfl⟩
      refine runs_bind.mpr (.inr ⟨_, answer, record, [], rfl,
        runs_call.mpr ⟨answer, rfl, rfl, rfl⟩, runs_hold_bind.mpr (runs_ofExcept_bind.mpr ?_)⟩)
      cases answered : answer.outcome with
      | error error => exact .inl ⟨error, rfl, rfl, rfl, rfl⟩
      | ok done => exact .inr ⟨done, rfl, runs_pure.mpr ⟨rfl, rfl, rfl⟩⟩
  · simp only [enabled, Bool.false_eq_true, if_false, false_and, false_or, runs_pure, true_and]

theorem isSilent_before : IsSilent (hook.before model type) := by
  intro held exchanges outcome after runs
  rcases runs_before.mp runs with ⟨-, answer, rfl, -⟩ | ⟨-, rfl, -⟩
  · rfl
  · rfl

theorem isSilent_beforeChanges (changes : Changes) :
    IsSilent (hook.beforeChanges model type changes) := by
  intro held exchanges outcome after runs
  rcases runs_beforeChanges.mp runs with ⟨-, answer, rfl, -⟩ | ⟨-, rfl, -⟩
  · rfl
  · rfl

/-- The record that a hook before a statement leaves can be read from the opening of the
transcript, if nothing later is mistaken for its call. -/
theorem recordLeft_of_runs {opening later : List Exchange}
    (runs : Runs (hook.before model type) record opening (.ok ()) after)
    (uncalled : openingReturn? hook later = none) :
    recordLeft hook record (opening ++ later) = after := by
  rcases runs_before.mp runs with ⟨-, answer, rfl, -, rfl⟩ | ⟨-, rfl, -, rfl⟩
  · simp [recordLeft, openingReturn?, Exchange.hookReturn?]
  · simp [recordLeft, uncalled]

/-- The changes that a hook before an update leaves can be read from the opening of the
transcript, if nothing later is mistaken for its call. -/
theorem changesLeft_of_runs {changes left : Changes} {opening later : List Exchange}
    (runs : Runs (hook.beforeChanges model type changes) record opening (.ok left) after)
    (uncalled : openingReturn? hook later = none) :
    changesLeft hook changes (opening ++ later) = left := by
  rcases runs_beforeChanges.mp runs with ⟨-, answer, rfl, equal, -⟩ | ⟨-, rfl, equal, -⟩
  · cases answered : answer.outcome with
    | error error =>
      rw [answered] at equal
      cases equal
    | ok done =>
      rw [answered] at equal
      cases equal
      simp [changesLeft, openingReturn?, Exchange.hookReturn?]
  · cases equal
    simp [changesLeft, uncalled]

/-! ### Hooks after a statement -/

theorem isSilent_reportFailure {Held : Type} (outcome : Except Error Unit) :
    IsSilent (hook.reportFailure model outcome : Operation Held Unit) := by
  cases outcome with
  | ok _ => exact isSilent_pure ()
  | error error => exact isSilent_report _ _

theorem isSilent_afterOn {Held : Type} (changes : Option Changes) (record : Record) :
    IsSilent (hook.afterOn model type changes record : Operation Held Record) := by
  unfold afterOn
  split
  · exact (isSilent_call _).bind fun answer =>
      (isSilent_reportFailure answer.outcome).bind fun _ => isSilent_pure answer.record
  · exact isSilent_pure record

theorem isSilent_after (changes : Option Changes) :
    IsSilent (hook.after model type changes) :=
  isSilent_held_bind fun record =>
    (isSilent_afterOn changes record).bind fun saved => isSilent_hold saved

end Hook

end RecordMapper
