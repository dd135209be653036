/-
This file proves that a registry of dialects is written once. Whatever is asked of it in whatever
order, a name stands for the dialect that was first registered under it or that it came with, and
goes on to do so; later attempts to take the name fail and change nothing. Names count as the same if
they differ in the blanks around them and in the case of letters at most. The registry compares them
in one form, by which it also lists them, and which names can be looked up does not depend on how
they are spelled.
-/

import RecordMapper.Dialect.Registry
import RecordMapper.Proofs.Text.LowerCase
import RecordMapper.Proofs.Text.Pieces
import Mathlib.Data.List.Sort
import Mathlib.Data.String.Basic

namespace RecordMapper

open RecordMapper.Text

/-! ### Names that count as the same -/

/-- Two names differ in the blanks around them and in the case of the letters `A` to `Z` at most. -/
def SameName (first second : String) : Prop :=
  ∃ core counterpart,
    (∃ before after, AreBlanks before ∧ AreBlanks after ∧
      first.toList = before ++ (core ++ after)) ∧
    (∃ before after, AreBlanks before ∧ AreBlanks after ∧
      second.toList = before ++ (counterpart ++ after)) ∧
    asciiLower core = asciiLower counterpart

namespace DialectRegistry

/-- Names are the same exactly if they are compared in the same form. -/
theorem normalName_eq_iff {first second : String} :
    normalName first = normalName second ↔ SameName first second := by
  unfold normalName
  rw [String.ofList_inj]
  constructor
  · exact fun same => ⟨trim first.toList, trim second.toList, exists_blanks_around _,
      exists_blanks_around _, same⟩
  · rintro ⟨core, counterpart, ⟨before, after, areBlanks, areBlanksToo, spelled⟩,
      ⟨front, back, areFront, areBack, spelledToo⟩, same⟩
    rw [spelled, spelledToo, trim_append_of_blanks areBlanks areBlanksToo,
      trim_append_of_blanks areFront areBack, ← trim_asciiLower, ← trim_asciiLower, same]

/-- Nothing is left of a name exactly if it consists of blanks. -/
theorem isEmpty_normalName {name : String} :
    (normalName name).isEmpty = true ↔ AreBlanks name.toList := by
  rw [normalName, String.isEmpty_iff, String.ofList_eq_empty_iff, asciiLower, List.map_eq_nil_iff]
  exact ⟨fun empty => by_contra fun notBlank => trim_ne_nil notBlank empty, trim_of_areBlanks⟩

/-! ### Calls -/

end DialectRegistry

/-- What can be asked of a registry. -/
inductive RegistryCall
  | register (name : String) (dialect : Dialect)
  | resolve (name : String)
  | resolveUrl (url : String)
  | names

/-- What a registry answers. -/
inductive RegistryAnswer
  | registered (outcome : Except Error Unit)
  | resolved (outcome : Except Error Dialect)
  | listed (names : List String)

namespace DialectRegistry

/-- The answer to a call, and the registry that it leaves. -/
def answer (registry : DialectRegistry) : RegistryCall → RegistryAnswer × DialectRegistry
  | .register name dialect =>
    match registry.register name dialect with
    | .ok further => (.registered (.ok ()), further)
    | .error fault => (.registered (.error (.configuration fault)), registry)
  | .resolve name => (.resolved ((registry.resolve name).mapError .configuration), registry)
  | .resolveUrl url => (.resolved ((registry.resolveUrl url).mapError .configuration), registry)
  | .names => (.listed registry.names, registry)

/-- Calls one after the other with their answers, and the registry that they leave. -/
def converse (registry : DialectRegistry) :
    List RegistryCall → List (RegistryCall × RegistryAnswer) × DialectRegistry
  | [] => ([], registry)
  | call :: rest =>
    let (answer, further) := registry.answer call
    let (later, last) := further.converse rest
    ((call, answer) :: later, last)

end DialectRegistry

/-- The name and the dialect that a call registers, if it succeeds. -/
def registration? : RegistryCall × RegistryAnswer → Option (String × Dialect)
  | (.register name dialect, .registered (.ok ())) => some (name, dialect)
  | _ => none

/-- The names and dialects that are registered by calls, in order. -/
def registrations (made : List (RegistryCall × RegistryAnswer)) : List (String × Dialect) :=
  made.filterMap registration?

/-! ### What a registry should answer -/

section

variable (known : List (String × Dialect)) (name : String)

/-- A name is the same as one of those known. -/
def IsTaken : Prop :=
  ∃ entry ∈ known, SameName entry.1 name

/-- A dialect is that of the first of the names known that is the same as a given one. -/
def IsFirst (dialect : Dialect) : Prop :=
  ∃ before other after, known = before ++ (other, dialect) :: after ∧ SameName other name ∧
    ¬ IsTaken before name

/-- What looking up a name comes to: the first dialect under it, or else an error of configuration. -/
inductive Finds : Except Error Dialect → Prop
  | found {dialect : Dialect} (first : IsFirst known name dialect) : Finds (.ok dialect)
  | missing (free : ¬ IsTaken known name) :
    Finds (.error (.configuration (.unknownDialect (DialectRegistry.normalName name))))

end

open DialectRegistry in
/-- The right answer to a call where certain names are known. -/
inductive Answers (known : List (String × Dialect)) : RegistryCall → RegistryAnswer → Prop
  | registered {name : String} {dialect : Dialect} (named : ¬ AreBlanks name.toList)
    (free : ¬ IsTaken known name) : Answers known (.register name dialect) (.registered (.ok ()))
  | unnamed {name : String} {dialect : Dialect} (areBlanks : AreBlanks name.toList) :
    Answers known (.register name dialect) (.registered (.error (.configuration .unnamedDialect)))
  | taken {name : String} {dialect : Dialect} (named : ¬ AreBlanks name.toList)
    (isTaken : IsTaken known name) : Answers known (.register name dialect)
      (.registered (.error (.configuration (.takenDialect (normalName name)))))
  | resolved {name : String} {outcome : Except Error Dialect} (finds : Finds known name outcome) :
    Answers known (.resolve name) (.resolved outcome)
  /-- A URL names its dialect by what stands before the first colon. -/
  | resolvedUrl {url : String} {scheme rest : List Char} {outcome : Except Error Dialect}
    (whole : url.toList = scheme ++ ':' :: rest) (uncut : ':' ∉ scheme)
    (finds : Finds known (String.ofList scheme) outcome) :
    Answers known (.resolveUrl url) (.resolved outcome)
  | noScheme {url : String} (uncut : ':' ∉ url.toList) :
    Answers known (.resolveUrl url) (.resolved (.error (.configuration (.noScheme url))))
  | listed {names : List String} (ordered : names.Pairwise (· < ·))
    (complete : ∀ name, name ∈ names ↔
      ∃ spelled, normalName spelled = name ∧ IsTaken known spelled) :
    Answers known .names (.listed names)

namespace DialectRegistry

/-! ### What a registry holds -/

/-- A registry holds just the names known, in the form in which they are compared, and each once. -/
structure Holds (registry : DialectRegistry) (known : List (String × Dialect)) : Prop where
  entries : registry.entries = known.map fun entry => (normalName entry.1, entry.2)
  apart : (registry.entries.map Prod.fst).Nodup

section

variable {registry : DialectRegistry} {known : List (String × Dialect)}

/-- The first entry under a name in its compared form is the first one of the same name. -/
theorem lookup_normalName (known : List (String × Dialect)) (name : String) :
    (known.map fun entry => (normalName entry.1, entry.2)).lookup (normalName name) =
      (known.find? fun entry => normalName entry.1 = normalName name).map Prod.snd := by
  induction known with
  | nil => rfl
  | cons entry rest inductionHypothesis =>
    rw [List.map_cons, List.lookup_cons, List.find?_cons, inductionHypothesis]
    by_cases same : normalName entry.1 = normalName name
    · simp [same]
    · rw [beq_eq_false_iff_ne.mpr (Ne.symm same), decide_eq_false same]

theorem isTaken_iff {name : String} : IsTaken known name ↔
    ∃ entry ∈ known, normalName entry.1 = normalName name :=
  exists_congr fun _ => and_congr_right fun _ => normalName_eq_iff.symm

section

variable (holds : registry.Holds known)

include holds

theorem find?_eq_none_iff {name : String} :
    registry.find? (normalName name) = none ↔ ¬ IsTaken known name := by
  rw [find?, holds.entries, lookup_normalName, Option.map_eq_none_iff, List.find?_eq_none,
    isTaken_iff]
  simp

theorem find?_eq_some_iff {name : String} {dialect : Dialect} :
    registry.find? (normalName name) = some dialect ↔ IsFirst known name dialect := by
  rw [find?, holds.entries, lookup_normalName, Option.map_eq_some_iff]
  constructor
  · rintro ⟨⟨other, _⟩, first, rfl⟩
    obtain ⟨same, before, after, whole, others⟩ := List.find?_eq_some_iff_append.mp first
    refine ⟨before, other, after, whole, normalName_eq_iff.mp (of_decide_eq_true same), ?_⟩
    rw [isTaken_iff]
    simpa using others
  · rintro ⟨before, other, after, whole, same, free⟩
    rw [isTaken_iff] at free
    refine ⟨(other, dialect), List.find?_eq_some_iff_append.mpr
      ⟨decide_eq_true (normalName_eq_iff.mpr same), before, after, whole, ?_⟩, rfl⟩
    simpa using free

/-- Looking up a name finds the first dialect under it. -/
theorem finds_resolve (name : String) :
    Finds known name ((registry.resolve name).mapError .configuration) := by
  unfold resolve
  cases found : registry.find? (normalName name) with
  | none => exact .missing ((find?_eq_none_iff holds).mp found)
  | some dialect => exact .found ((find?_eq_some_iff holds).mp found)

theorem resolve_of_isFirst {name : String} {dialect : Dialect}
    (first : IsFirst known name dialect) : registry.resolve name = .ok dialect := by
  rw [resolve, (find?_eq_some_iff holds).mpr first]

/-- The names are listed in order, each once, as they are compared. -/
theorem names_ordered : registry.names.Pairwise (· < ·) := by
  have perm := List.mergeSort_perm (registry.entries.map Prod.fst) fun first second =>
    decide (first ≤ second)
  have sorted := List.pairwise_mergeSort' (· ≤ ·) (registry.entries.map Prod.fst)
  exact sorted.imp₂ (fun _ _ => lt_of_le_of_ne) (perm.nodup_iff.mpr holds.apart)

theorem mem_names_iff {name : String} : name ∈ registry.names ↔
    ∃ spelled, normalName spelled = name ∧ IsTaken known spelled := by
  rw [names, List.mem_mergeSort, holds.entries]
  simp only [isTaken_iff]
  constructor
  · intro listed
    obtain ⟨entry, member, rfl⟩ : ∃ entry ∈ known, normalName entry.1 = name := by simpa using listed
    exact ⟨entry.1, rfl, entry, member, rfl⟩
  · rintro ⟨spelled, rfl, entry, member, same⟩
    simpa using ⟨entry.1, ⟨entry.2, member⟩, same⟩

end

/-! ### One call -/

/-- Registering a name fails exactly if it is blank or taken; else it is known from then on. -/
theorem register_cases (holds : registry.Holds known) (name : String) (dialect : Dialect) :
    (AreBlanks name.toList ∧ registry.register name dialect = .error .unnamedDialect) ∨
    (¬ AreBlanks name.toList ∧ IsTaken known name ∧
      registry.register name dialect = .error (.takenDialect (normalName name))) ∨
    (¬ AreBlanks name.toList ∧ ¬ IsTaken known name ∧ ∃ further,
      registry.register name dialect = .ok further ∧
        further.Holds (known ++ [(name, dialect)])) := by
  by_cases areBlanks : AreBlanks name.toList
  · exact .inl ⟨areBlanks, if_pos (isEmpty_normalName.mpr areBlanks)⟩
  have named := mt isEmpty_normalName.mp areBlanks
  cases found : registry.find? (normalName name) with
  | some other =>
    have isTaken : IsTaken known name := by
      by_contra free
      rw [(find?_eq_none_iff holds).mpr free] at found
      cases found
    refine .inr (.inl ⟨areBlanks, isTaken, ?_⟩)
    rw [register, if_neg named, found]
    rfl
  | none =>
    have free := (find?_eq_none_iff holds).mp found
    refine .inr (.inr ⟨areBlanks, free, ⟨registry.entries ++ [(normalName name, dialect)]⟩, ?_, ?_⟩)
    · rw [register, if_neg named, found]
      rfl
    · refine ⟨by rw [holds.entries, List.map_append]; rfl, ?_⟩
      rw [List.map_append]
      refine List.nodup_append.mpr ⟨holds.apart, List.nodup_singleton _, ?_⟩
      rw [isTaken_iff] at free
      rw [holds.entries]
      rintro key listed _ same rfl
      obtain ⟨entry, member, normal⟩ : ∃ entry ∈ known, normalName entry.1 = key := by
        simpa using listed
      exact free ⟨entry, member, normal.trans (List.mem_singleton.mp same)⟩

/-- A URL is looked up by what stands before its first colon. -/
theorem answers_resolveUrl (holds : registry.Holds known) (url : String) :
    Answers known (.resolveUrl url)
      (.resolved ((registry.resolveUrl url).mapError .configuration)) := by
  unfold resolveUrl
  by_cases colon : ':' ∈ url.toList
  · obtain ⟨scheme, rest, whole, uncut⟩ := List.eq_append_cons_of_mem colon
    rw [whole, cut_append_cons uncut]
    exact .resolvedUrl whole uncut (finds_resolve holds _)
  · rw [cut_eq_none colon]
    exact .noScheme colon

theorem answer_of_registers {further : DialectRegistry} {name : String} {dialect : Dialect}
    (registers : registry.register name dialect = .ok further) :
    registry.answer (.register name dialect) = (.registered (.ok ()), further) := by
  rw [DialectRegistry.answer, registers]

theorem answer_of_fails {fault : SetupFault} {name : String} {dialect : Dialect}
    (fails : registry.register name dialect = .error fault) :
    registry.answer (.register name dialect) =
      (.registered (.error (.configuration fault)), registry) := by
  rw [DialectRegistry.answer, fails]

/-- A call is answered rightly by what is known, and what it registers is known afterwards. -/
theorem Holds.answer (holds : registry.Holds known) (call : RegistryCall) :
    Answers known call (registry.answer call).1 ∧
      (registry.answer call).2.Holds
        (known ++ (registration? (call, (registry.answer call).1)).toList) := by
  have same : registry.Holds (known ++ []) := by rwa [List.append_nil]
  cases call with
  | register name dialect =>
    rcases register_cases holds name dialect with ⟨areBlanks, fails⟩ | ⟨named, isTaken, fails⟩ |
      ⟨named, free, further, registers, holdsToo⟩
    · rw [answer_of_fails fails]
      exact ⟨.unnamed areBlanks, same⟩
    · rw [answer_of_fails fails]
      exact ⟨.taken named isTaken, same⟩
    · rw [answer_of_registers registers]
      exact ⟨.registered named free, holdsToo⟩
  | resolve name => exact ⟨.resolved (finds_resolve holds name), same⟩
  | resolveUrl url => exact ⟨answers_resolveUrl holds url, same⟩
  | names => exact ⟨.listed (names_ordered holds) fun _ => mem_names_iff holds, same⟩

/-- A registration that fails leaves the registry as it is. -/
theorem answer_of_failed {name : String} {dialect : Dialect} {error : Error}
    (failed : (registry.answer (.register name dialect)).1 = .registered (.error error)) :
    (registry.answer (.register name dialect)).2 = registry := by
  cases outcome : registry.register name dialect with
  | error fault => rw [answer_of_fails outcome]
  | ok further =>
    rw [answer_of_registers outcome] at failed
    cases failed

/-! ### Any calls -/

theorem registrations_cons (exchange : RegistryCall × RegistryAnswer)
    (rest : List (RegistryCall × RegistryAnswer)) :
    registrations (exchange :: rest) = (registration? exchange).toList ++ registrations rest := by
  rw [registrations, List.filterMap_cons]
  cases registration? exchange <;> rfl

/-- After any calls a registry holds what it came with and what they have registered. -/
theorem Holds.converse (holds : registry.Holds known) (calls : List RegistryCall) :
    (registry.converse calls).2.Holds (known ++ registrations (registry.converse calls).1) := by
  induction calls generalizing registry known with
  | nil =>
    show registry.Holds (known ++ [])
    rwa [List.append_nil]
  | cons call rest inductionHypothesis =>
    have later := inductionHypothesis (holds.answer call).2
    rw [List.append_assoc, ← registrations_cons] at later
    exact later

end

/-- A registry without dialects holds nothing. -/
theorem holds_empty : empty.Holds [] :=
  ⟨rfl, List.nodup_nil⟩

/-- The registry of all supported products holds their names, which are all as they are compared. -/
theorem holds_standard : standard.Holds standard.entries := by
  have normal : ∀ name ∈ standard.entries.map Prod.fst, normalName name = name := by
    decide +kernel
  refine ⟨?_, by decide +kernel⟩
  have kept : standard.entries.map (fun entry => (normalName entry.1, entry.2)) =
      standard.entries.map id :=
    List.map_congr_left fun entry member =>
      Prod.ext (normal entry.1 (List.mem_map_of_mem member)) rfl
  rw [kept, List.map_id]

end DialectRegistry

/-- A registry keeps to the names known: it answers every call as they demand, stays as it is when a
registration fails, and goes on to find what it has found once, whatever calls come in between. -/
structure DialectRegistry.KeepsTo (known : List (String × Dialect)) (registry : DialectRegistry) :
    Prop where
  answers : ∀ call, Answers known call (registry.answer call).1
  unchanged : ∀ name dialect error,
    (registry.answer (.register name dialect)).1 = .registered (.error error) →
      (registry.answer (.register name dialect)).2 = registry
  lasting : ∀ name other dialect later, SameName name other →
    (registry.answer (.resolve name)).1 = .resolved (.ok dialect) →
      ((registry.converse later).2.answer (.resolve other)).1 = .resolved (.ok dialect)

namespace DialectRegistry

theorem isFirst_of_sameName {known more : List (String × Dialect)} {name other : String}
    {dialect : Dialect} (same : SameName name other) (first : IsFirst known name dialect) :
    IsFirst (known ++ more) other dialect := by
  obtain ⟨before, found, after, rfl, sameToo, free⟩ := first
  rw [← normalName_eq_iff] at same sameToo
  refine ⟨before, found, after ++ more, by simp, normalName_eq_iff.mp (sameToo.trans same), ?_⟩
  rwa [isTaken_iff, ← same, ← isTaken_iff]

theorem Holds.keepsTo {registry : DialectRegistry} {known : List (String × Dialect)}
    (holds : registry.Holds known) : registry.KeepsTo known := by
  refine ⟨fun call => (holds.answer call).1, fun _ _ _ => answer_of_failed,
    fun name other dialect later same resolved => ?_⟩
  have first : IsFirst known name dialect := by
    have answered := (holds.answer (.resolve name)).1
    rw [resolved] at answered
    obtain _ | _ | _ | ⟨⟨first⟩⟩ := answered
    exact first
  have found := resolve_of_isFirst (holds.converse later) (isFirst_of_sameName same first)
  show RegistryAnswer.resolved (((registry.converse later).2.resolve other).mapError _) = _
  rw [found]
  rfl

/-- A registry that is new or comes with the dialects of all products keeps, after any calls, to the
names that it came with and those that the calls have registered since, in this order. -/
theorem registry_keepsTo {start : DialectRegistry} (usual : start = .empty ∨ start = .standard)
    (calls : List RegistryCall) :
    (start.converse calls).2.KeepsTo
      (start.entries ++ registrations (start.converse calls).1) := by
  rcases usual with rfl | rfl
  · exact (holds_empty.converse calls).keepsTo
  · exact (holds_standard.converse calls).keepsTo

/-- Calls that register a name, then try it in capitals and a blank one, and look it up in between. -/
def liteCalls : List RegistryCall :=
  [.resolve "lite", .register " Lite " .sqlite, .register "LITE" .mySql, .resolve "lite",
    .register "\t" .mySql, .register "Postgres" .mySql, .names]

/-- Of four registrations one succeeds, and its name stands for its dialect in any spelling. -/
theorem registry_keepsTo_lite :
    (standard.converse liteCalls).2.KeepsTo
      (standard.entries ++ registrations (standard.converse liteCalls).1) ∧
    (registrations (standard.converse liteCalls).1).map (fun entry => (entry.1, entry.2.name)) =
      [(" Lite ", "sqlite")] ∧
    ((standard.converse liteCalls).2.resolve "liTE\n").toOption.map Dialect.name = some "sqlite" :=
  ⟨registry_keepsTo (.inr rfl) liteCalls, by decide +kernel, by decide +kernel⟩

end DialectRegistry

end RecordMapper
