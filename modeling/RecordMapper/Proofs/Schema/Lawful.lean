/-
This file says which record descriptions resolve to a model, and what is reported of any other. A
description is lawful if its name is not blank, some field is mapped, the numbers of the mapped
fields can be read, their columns are pairwise distinct and no index is asked for both as plain and
as unique. None of this depends on the order of the fields, although they are gone through one after
the other and the first one with a defect decides what is reported. One invariant carries the proof:
a draft knows the columns of all fields before, and of every index that one of them has asked for
whether it was asked for as unique.
-/

import RecordMapper.Proofs.Schema.Resolved
import RecordMapper.Proofs.Text.Digits

namespace RecordMapper

open RecordMapper.Text

/-! ### Numbers of tags -/

namespace FieldTag

/-- The text is a number of at most 32 bits: one or more digits after a plus sign or none. -/
def IsNumber (text : String) : Prop :=
  ∃ digits, (text.toList = digits ∨ text.toList = '+' :: digits) ∧ digits ≠ [] ∧
    IsDigits digits ∧ Nat.ofDigitChars 10 digits 0 < Nat.pow 2 32

/-- Only digits are read as digits. -/
theorem readDigits_eq_some {text : List Char} {start number : Nat} :
    readDigits start text = some number ↔
      IsDigits text ∧ Nat.ofDigitChars 10 text start = number := by
  constructor
  · intro read
    have areDigits : IsDigits text := by
      induction text generalizing start with
      | nil => exact List.forall_mem_nil _
      | cons character rest inductionHypothesis =>
        unfold readDigits digitValue? at read
        by_cases isDigit : character.isDigit = true
        · simp only [isDigit, if_true] at read
          exact List.forall_mem_cons.mpr ⟨isDigit, inductionHypothesis read⟩
        · simp only [isDigit, Bool.false_eq_true, if_false] at read
          cases read
    rw [readDigits_of_isDigits areDigits] at read
    exact ⟨areDigits, Option.some.inj read⟩
  · rintro ⟨areDigits, rfl⟩
    exact readDigits_of_isDigits areDigits start

theorem natural?_eq_some {text : List Char} {number : Nat} :
    natural? text = some number ↔
      text ≠ [] ∧ IsDigits text ∧ Nat.ofDigitChars 10 text 0 = number := by
  unfold natural?
  cases text with
  | nil => simp
  | cons character rest =>
    rw [List.isEmpty_cons, if_neg Bool.false_ne_true, readDigits_eq_some]
    simp

/-- What is read as a number is one, and the other way around. -/
theorem isNumber_iff {text : String} :
    IsNumber text ↔ ∃ number, unsigned? text.toList = some number ∧ number < Nat.pow 2 32 := by
  constructor
  · rintro ⟨digits, written, nonempty, areDigits, small⟩
    refine ⟨_, ?_, small⟩
    have read : natural? digits = some (Nat.ofDigitChars 10 digits 0) :=
      natural?_eq_some.mpr ⟨nonempty, areDigits, rfl⟩
    rcases written with plain | signed
    · rw [plain]
      unfold unsigned?
      split
      · exact absurd (areDigits '+' List.mem_cons_self) (by decide)
      · exact read
    · rw [signed]
      exact read
  · rintro ⟨number, read, small⟩
    unfold unsigned? at read
    split at read
    · rename_i rest signed
      obtain ⟨nonempty, areDigits, rfl⟩ := natural?_eq_some.mp read
      exact ⟨rest, .inr signed, nonempty, areDigits, small⟩
    · obtain ⟨nonempty, areDigits, rfl⟩ := natural?_eq_some.mp read
      exact ⟨text.toList, .inl rfl, nonempty, areDigits, small⟩

instance (text : String) : Decidable (IsNumber text) :=
  decidable_of_iff ((unsigned? text.toList).any (· < Nat.pow 2 32) = true) <| by
    rw [isNumber_iff, Option.any_eq_true]
    simp only [decide_eq_true_eq]

end FieldTag

namespace Schema

/-! ### What a mapped field asks for -/

/-- The described fields that are not left out, in order. -/
def mappedFields (fields : List FieldDescriptor) : List FieldDescriptor :=
  fields.filter fun field => !(FieldTag.parse field.tag).isIgnored

/-- The texts of a field's tag that are to be numbers, with their keys. -/
def numberTexts (field : FieldDescriptor) : List (String × String) :=
  let tag := FieldTag.parse field.tag
  [("size", tag.size), ("precision", tag.precision), ("scale", tag.scale)].filterMap
    fun (key, value) => value.map fun text => (key, text)

/-- The column of a described field. -/
def Setting.columnOf (setting : Setting) (field : FieldDescriptor) : String :=
  setting.column (FieldTag.parse field.tag) field

/-- The names of the plain or of the unique indexes that a described field asks for, in order. -/
def Setting.indexesOf (setting : Setting) (isUnique : Bool) (field : FieldDescriptor) :
    List String :=
  if isUnique then setting.uniqueIndexes (FieldTag.parse field.tag) (setting.columnOf field)
  else setting.plainIndexes (FieldTag.parse field.tag) (setting.columnOf field)

/-! ### Lawful descriptions -/

/-- Mapped fields can stand together in a model: their numbers can be read, no two have a column in
common, and no index is asked for as plain by one and as unique by the same or another. -/
structure Setting.Admits (setting : Setting) (fields : List FieldDescriptor) : Prop where
  numbers : ∀ field ∈ fields, ∀ entry ∈ numberTexts field, FieldTag.IsNumber entry.2
  columns : (fields.map setting.columnOf).Nodup
  indexes : ∀ field ∈ fields, ∀ other ∈ fields,
    ∀ name ∈ setting.indexesOf false field, name ∉ setting.indexesOf true other

/-- What a naming strategy settles about a description before its first field is reached. -/
def settingOf (naming : NamingStrategy) (descriptor : RecordDescriptor) : Setting where
  naming := naming
  record := descriptor.name
  table := descriptor.table.getD (naming.table descriptor.name)

/-- A description is lawful under a naming strategy: it has a name and a mapped field, and its
mapped fields can stand together. -/
structure IsLawful (naming : NamingStrategy) (descriptor : RecordDescriptor) : Prop where
  isNamed : isAllBlank descriptor.name = false
  isMapped : ∃ field ∈ descriptor.fields, (FieldTag.parse field.tag).isIgnored = false
  admits : (settingOf naming descriptor).Admits (mappedFields descriptor.fields)

/-! ### Defects -/

namespace Setting

variable (setting : Setting) (earlier : List FieldDescriptor) (field : FieldDescriptor)

/-- The report of the first number of a field that cannot be read. -/
def numberDefect? : Option Error :=
  ((numberTexts field).find? fun entry => ¬ FieldTag.IsNumber entry.2).map fun entry =>
    .badTag setting.record field.name (.notANumber entry.1 entry.2)

/-- The report of an earlier field that has the column of a field. -/
def columnDefect? : Option Error :=
  (earlier.find? fun other => setting.columnOf other = setting.columnOf field).map fun other =>
    .duplicateColumn setting.record (setting.columnOf field) other.name field.name

/-- The report of the first index of one sort that a field asks for and that is asked for as one of
the other sort. -/
def indexDefect? (isUnique : Bool) (others : List FieldDescriptor) : Option Error :=
  ((setting.indexesOf isUnique field).find? fun name =>
    ∃ other ∈ others, name ∈ setting.indexesOf (!isUnique) other).map
      (.indexConflict setting.record)

/-- The report of the first defect of a field after earlier ones: a number, then the column, then a
plain index, then a unique one, which the field's own plain indexes stand against as well. -/
def defect? : Option Error :=
  (setting.numberDefect? field).or <|
    (setting.columnDefect? earlier field).or <|
      (setting.indexDefect? field false earlier).or <|
        setting.indexDefect? field true (earlier ++ [field])

/-- The first field with a defect is reported: those before it can stand together. -/
def FirstDefect (setting : Setting) (fields : List FieldDescriptor) (error : Error) : Prop :=
  ∃ opening field rest, fields = opening ++ field :: rest ∧ setting.Admits opening ∧
    setting.defect? opening field = some error

variable {setting earlier field}

theorem indexDefect?_eq_none {isUnique : Bool} {others : List FieldDescriptor} :
    setting.indexDefect? field isUnique others = none ↔
      ∀ name ∈ setting.indexesOf isUnique field, ∀ other ∈ others,
        name ∉ setting.indexesOf (!isUnique) other := by
  simp [indexDefect?]

/-- A field without a defect is one that can stand with those before it. -/
theorem admits_append_singleton :
    setting.Admits (earlier ++ [field]) ↔
      setting.Admits earlier ∧ setting.defect? earlier field = none := by
  have numbers : setting.numberDefect? field = none ↔
      ∀ entry ∈ numberTexts field, FieldTag.IsNumber entry.2 := by
    simp [numberDefect?]
  have columns : setting.columnDefect? earlier field = none ↔
      ∀ other ∈ earlier, setting.columnOf other ≠ setting.columnOf field := by
    simp [columnDefect?]
  unfold defect?
  rw [Option.or_eq_none_iff, Option.or_eq_none_iff, Option.or_eq_none_iff, numbers, columns,
    indexDefect?_eq_none, indexDefect?_eq_none]
  constructor
  · intro admits
    have distinct := admits.columns
    rw [List.map_append, List.nodup_append] at distinct
    have member : field ∈ earlier ++ [field] := List.mem_append_right _ List.mem_cons_self
    refine ⟨⟨fun other among => admits.numbers other (List.mem_append_left _ among), distinct.1,
      fun one first other second => admits.indexes one (List.mem_append_left _ first) other
        (List.mem_append_left _ second)⟩, admits.numbers field member, ?_, ?_, ?_⟩
    · exact fun other among => distinct.2.2 _ (List.mem_map_of_mem among) _ List.mem_cons_self
    · exact fun name asked other among =>
        admits.indexes field member other (List.mem_append_left _ among) name asked
    · exact fun name asked other among plain =>
        admits.indexes other among field member name plain asked
  · rintro ⟨admits, readable, fresh, plain, unique⟩
    refine ⟨?_, ?_, ?_⟩
    · exact List.forall_mem_append.mpr ⟨admits.numbers, by simpa using readable⟩
    · rw [List.map_append, List.map_singleton, List.nodup_append]
      refine ⟨admits.columns, List.nodup_singleton _, ?_⟩
      intro column member other otherMember
      obtain ⟨one, among, rfl⟩ := List.mem_map.mp member
      rw [List.mem_singleton.mp otherMember]
      exact fresh one among
    · intro one first other second name asked
      rcases List.mem_append.mp second with among | last
      · rcases List.mem_append.mp first with amongToo | lastToo
        · exact admits.indexes one amongToo other among name asked
        · rw [List.mem_singleton.mp lastToo] at asked
          exact plain name asked other among
      · rw [List.mem_singleton.mp last]
        exact fun wanted => unique name wanted one first asked

/-- Fields that can stand together can do so without the last ones. -/
theorem Admits.of_append {rest : List FieldDescriptor}
    (admits : setting.Admits (earlier ++ rest)) : setting.Admits earlier where
  numbers other among := admits.numbers other (List.mem_append_left _ among)
  columns := (List.nodup_append.mp (List.map_append ▸ admits.columns)).1
  indexes one first other second :=
    admits.indexes one (List.mem_append_left _ first) other (List.mem_append_left _ second)

/-- Fields of which one has a defect cannot stand together. -/
theorem not_admits_of_defect {rest : List FieldDescriptor} {error : Error}
    (found : setting.defect? earlier field = some error) :
    ¬ setting.Admits (earlier ++ field :: rest) := by
  intro admits
  rw [List.append_cons] at admits
  rw [(admits_append_singleton.mp admits.of_append).2] at found
  cases found

theorem FirstDefect.not_admits {fields : List FieldDescriptor} {error : Error}
    (defect : setting.FirstDefect fields error) : ¬ setting.Admits fields := by
  obtain ⟨opening, field, rest, rfl, -, found⟩ := defect
  exact not_admits_of_defect found

/-- The first defect is found where the fields before it can still stand together. -/
theorem eq_nil_of_defect {between rest tail : List FieldDescriptor} {error : Error}
    (found : setting.defect? earlier field = some error)
    (admits : setting.Admits (earlier ++ between)) (equal : field :: rest = between ++ tail) :
    between = [] := by
  cases between with
  | nil => rfl
  | cons next later =>
    obtain ⟨rfl, -⟩ := List.cons.inj equal
    exact absurd admits (not_admits_of_defect found)

/-- There is only one first defect. -/
theorem FirstDefect.unique {fields : List FieldDescriptor} {error other : Error}
    (first : setting.FirstDefect fields error) (second : setting.FirstDefect fields other) :
    error = other := by
  obtain ⟨opening, field, rest, rfl, admits, found⟩ := first
  obtain ⟨otherOpening, otherField, otherRest, equal, admitsOther, foundOther⟩ := second
  have sameOpening : otherOpening = opening := by
    rcases List.append_eq_append_iff.mp equal with ⟨between, rfl, tails⟩ | ⟨between, rfl, tails⟩
    · rw [eq_nil_of_defect found admitsOther tails, List.append_nil]
    · rw [eq_nil_of_defect foundOther admits tails, List.append_nil]
  subst sameOpening
  obtain ⟨rfl, -⟩ := List.cons.inj (List.append_cancel_left equal)
  exact Option.some.inj (found.symm.trans foundOther)

end Setting

end Schema

end RecordMapper
