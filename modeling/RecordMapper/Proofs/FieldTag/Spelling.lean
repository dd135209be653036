/-
This file proves that a tag is read back from every way of writing it. A tag is made up of remarks:
one for every flag, text and index it has, and one for every key that means nothing. Remarks may
stand in any order, as long as the indexes and the unknown keys keep theirs. A remark is written as
a key and perhaps a value behind a colon. The letters of a key may be in capitals, blanks may stand
around keys and values and between the two words of a key, and blank pieces may stand anywhere
between the remarks. Of all that, only what the remarks say is left in the tag that is read.
-/

import Mathlib.Data.List.Forall2
import RecordMapper.Proofs.FieldTag.Joining
import RecordMapper.Proofs.Text.Words

namespace RecordMapper

open RecordMapper.Text

namespace FieldTag

/-! ### What tags are made up of -/

/-- What a field is told about by a key that means something. Leaving the field out is not among
these: such a tag says nothing else. -/
inductive Topic
  | primaryKey
  | autoIncrement
  | column
  | sqlType
  | size
  | precision
  | scale
  | notNull
  | null
  | unique
  | default
  | index
  | uniqueIndex
  deriving DecidableEq

/-- The key of a topic, in lower case and with single spaces. -/
def Topic.key : Topic → String
  | primaryKey => "primarykey"
  | autoIncrement => "autoincrement"
  | column => "column"
  | sqlType => "type"
  | size => "size"
  | precision => "precision"
  | scale => "scale"
  | notNull => "not null"
  | null => "null"
  | unique => "unique"
  | default => "default"
  | index => "index"
  | uniqueIndex => "uniqueindex"

/-- What a tag says on a topic. -/
inductive Part
  | flag (raised : Bool)
  | text (value : Option String)
  | list (names : List (Option String))

/-- The part of a tag on a topic. -/
def part (tag : FieldTag) : Topic → Part
  | .primaryKey => .flag tag.isPrimaryKey
  | .autoIncrement => .flag tag.isAutoIncrement
  | .column => .text tag.column
  | .sqlType => .text tag.sqlType
  | .size => .text tag.size
  | .precision => .text tag.precision
  | .scale => .text tag.scale
  | .notNull => .flag tag.isNotNull
  | .null => .flag tag.isNull
  | .unique => .flag tag.isUnique
  | .default => .text tag.defaultValue
  | .index => .list tag.indexes
  | .uniqueIndex => .list tag.uniqueIndexes

/-- The texts of a part. -/
def Part.texts : Part → List String
  | flag _ => []
  | text value => value.toList
  | list names => names.filterMap id

/-- One thing that a tag says: something on a topic, with a value or without one, or a key that
means nothing. -/
inductive Remark
  | on (topic : Topic) (value : Option String)
  | unknown (key : String)

/-- What a remark says on a topic, if it is on that topic. -/
def Remark.on? (topic : Topic) : Remark → Option (Option String)
  | on other value => if other = topic then some value else none
  | unknown _ => none

/-- The key of a remark that means nothing. -/
def Remark.unknown? : Remark → Option String
  | on _ _ => none
  | unknown key => some key

/-- What remarks say on a topic, in their order. -/
def said (topic : Topic) (remarks : List Remark) : List (Option String) :=
  remarks.filterMap (Remark.on? topic)

/-- Remarks on a topic say a part of a tag: a raised flag at least once and without a value, a text
once, and indexes one after the other. -/
def Part.IsSaid : Part → List (Option String) → Prop
  | flag raised, said => (raised = true ↔ said ≠ []) ∧ ∀ value ∈ said, value = none
  | text value, said => said = value.toList.map some
  | list names, said => said = names

instance (part : Part) (said : List (Option String)) : Decidable (part.IsSaid said) :=
  match part with
  | .flag _ => inferInstanceAs (Decidable (_ ∧ _))
  | .text _ => inferInstanceAs (Decidable (_ = _))
  | .list _ => inferInstanceAs (Decidable (_ = _))

/-- Remarks make up a tag. Nothing is said of their order across topics. -/
structure MakeUp (remarks : List Remark) (tag : FieldTag) : Prop where
  parts : ∀ topic, (tag.part topic).IsSaid (said topic remarks)
  unknown : remarks.filterMap Remark.unknown? = tag.unknown

/-! ### How tags are written -/

/-- A text that can stand as a value: there is something in it, it has no blanks around it, and no
semicolon ends it early. -/
structure IsTidy (text : List Char) : Prop where
  nonempty : text ≠ []
  trimmed : trim text = text
  unseparated : ';' ∉ text

instance : DecidablePred IsTidy := fun text =>
  decidable_of_iff (text ≠ [] ∧ trim text = text ∧ ';' ∉ text)
    ⟨fun ⟨nonempty, trimmed, unseparated⟩ => ⟨nonempty, trimmed, unseparated⟩,
      fun ⟨nonempty, trimmed, unseparated⟩ => ⟨nonempty, trimmed, unseparated⟩⟩

/-- A text that can stand as a key that means nothing: no colon ends it early, and it is not one of
the keys that mean something, however that is spelled. -/
structure IsUnknown (key : List Char) : Prop extends IsTidy key where
  uncut : ':' ∉ key
  meaningless : ∀ known ∈ knownKeys, ¬ Spells key known

/-- A tag that can be written: it does not leave its field out, its texts can stand as values, and
the keys that mean nothing can stand as such. -/
structure IsWritable (tag : FieldTag) : Prop where
  isMapped : tag.isIgnored = false
  texts : ∀ topic, ∀ text ∈ (tag.part topic).texts, IsTidy text.toList
  unknown : ∀ key ∈ tag.unknown, IsUnknown key.toList

/-- A text with any blanks around it. -/
def IsPadded (text padded : List Char) : Prop :=
  ∃ before after, AreBlanks before ∧ AreBlanks after ∧ padded = before ++ (text ++ after)

/-- The ways to write a remark. -/
inductive Remark.IsWritten : Remark → List Char → Prop
  | bare {topic : Topic} {key : List Char} (spells : Spells key topic.key) :
    IsWritten (on topic none) key
  | empty {topic : Topic} {key blanks : List Char} (spells : Spells key topic.key)
    (areBlanks : AreBlanks blanks) : IsWritten (on topic none) (key ++ ':' :: blanks)
  | valued {topic : Topic} {value : String} {key padded : List Char}
    (spells : Spells key topic.key) (isPadded : IsPadded value.toList padded) :
    IsWritten (on topic (some value)) (key ++ ':' :: padded)
  | unknown {key : String} {padded : List Char} (isPadded : IsPadded key.toList padded) :
    IsWritten (unknown key) padded
  | unknownValued {key : String} {padded value : List Char}
    (isPadded : IsPadded key.toList padded) (unseparated : ';' ∉ value) :
    IsWritten (unknown key) (padded ++ ':' :: value)

/-- Remarks are written one after the other, each as a piece, with blank pieces anywhere. -/
inductive AreWritten : List Remark → List (List Char) → Prop
  | none : AreWritten [] []
  | blank {remarks : List Remark} {piece : List Char} {pieces : List (List Char)}
    (areBlanks : AreBlanks piece) (behind : AreWritten remarks pieces) :
    AreWritten remarks (piece :: pieces)
  | remark {remark : Remark} {remarks : List Remark} {piece : List Char}
    {pieces : List (List Char)} (isWritten : remark.IsWritten piece)
    (behind : AreWritten remarks pieces) : AreWritten (remark :: remarks) (piece :: pieces)

/-! ### Single pieces -/

section

variable {piece key value text padded : List Char}

theorem ofPiece?_of_areBlanks (areBlanks : AreBlanks piece) : Clause.ofPiece? piece = none := by
  rw [Clause.ofPiece?, trim_of_areBlanks areBlanks]
  rfl

/-- A piece without a colon is a key. -/
theorem ofPiece?_of_uncut (nonempty : trim piece ≠ []) (uncut : ':' ∉ piece) :
    Clause.ofPiece? piece = some ⟨trim piece, none⟩ := by
  have uncutToo : ':' ∉ trim piece := fun member => uncut (mem_of_mem_trim member)
  simp [Clause.ofPiece?, nonempty, cut_eq_none uncutToo]

/-- A piece is cut at its first colon. -/
theorem ofPiece?_append_cons (uncut : ':' ∉ key) : Clause.ofPiece? (key ++ ':' :: value) =
    some ⟨trim key, if (trim value).isEmpty then none else some (trim value)⟩ := by
  have uncutToo : ':' ∉ trimStart key := fun member => uncut (List.dropWhile_subset _ member)
  have whole : trim (key ++ ':' :: value) = trimStart key ++ ':' :: trimEnd value :=
    trim_append_cons (by decide)
  simp [Clause.ofPiece?, whole, cut_append_cons uncutToo, trim_trimStart, trim_trimEnd]

theorem comparedKey_trim (value : Option (List Char)) :
    (Clause.mk (trim key) value).comparedKey = String.ofList (asciiLower (singleSpaced key)) := by
  rw [Clause.comparedKey, singleSpaced_trim]

theorem comparedKey_of_spells {token : String} (spells : Spells key token)
    (value : Option (List Char)) : (Clause.mk (trim key) value).comparedKey = token := by
  rw [comparedKey_trim, spells_iff.mp spells, String.ofList_toList]

theorem IsPadded.trim_eq (isPadded : IsPadded text padded) (isTidy : IsTidy text) :
    trim padded = text := by
  obtain ⟨before, after, areBlanks, areBlanksToo, rfl⟩ := isPadded
  rw [trim_append_of_blanks areBlanks areBlanksToo, isTidy.trimmed]

/-- Blanks around a text put no separator in it. -/
theorem IsPadded.not_mem {character : Char} (isPadded : IsPadded text padded)
    (solid : isBlank character = false) (free : character ∉ text) : character ∉ padded := by
  obtain ⟨before, after, areBlanks, areBlanksToo, rfl⟩ := isPadded
  simp [areBlanks.not_mem solid, areBlanksToo.not_mem solid, free]

end

/-! ### Single remarks -/

/-- The keys of topics have no separators in them. -/
theorem Topic.not_mem_key {character : Char} (separates : character = ';' ∨ character = ':')
    (topic : Topic) : character ∉ topic.key.toList := by
  rcases separates with rfl | rfl <;> cases topic <;> decide

/-- No more do the texts that spell them. -/
theorem Topic.not_mem_of_spells {character : Char} {key : List Char} {topic : Topic}
    (separates : character = ';' ∨ character = ':') (spells : Spells key topic.key) :
    character ∉ key := by
  intro member
  rcases spells.mem member with blank | letter
  · rcases separates with rfl | rfl <;> exact absurd blank (by decide)
  · have same : character.toLower = character := by rcases separates with rfl | rfl <;> decide
    rw [same] at letter
    exact topic.not_mem_key separates letter

theorem Topic.trim_ne_nil_of_spells {key : List Char} {topic : Topic}
    (spells : Spells key topic.key) : trim key ≠ [] :=
  trim_ne_nil (spells.not_areBlanks (by cases topic <;> decide))

/-- A remark whose value can stand as a value, or whose key as one that means nothing. -/
def Remark.IsWritable : Remark → Prop
  | on _ value => ∀ text ∈ value, IsTidy text.toList
  | unknown key => IsUnknown key.toList

/-- A clause carries a remark. -/
def Remark.IsCarried (clause : Clause) : Remark → Prop
  | on topic value => clause.comparedKey = topic.key ∧ clause.text = value
  | unknown key => clause.comparedKey ∉ knownKeys ∧ String.ofList clause.key = key

/-- A key that is none of the known ones is not taken for one. -/
theorem IsUnknown.comparedKey_not_mem {key padded : List Char} (isUnknown : IsUnknown key)
    (isPadded : IsPadded key padded) (value : Option (List Char)) :
    (Clause.mk (trim padded) value).comparedKey ∉ knownKeys := by
  intro member
  refine isUnknown.meaningless _ member (spells_iff.mpr ?_)
  rw [isPadded.trim_eq isUnknown.toIsTidy, Clause.comparedKey, String.toList_ofList]

/-- However a remark is written, one clause is read, and the clause carries the remark. -/
theorem Remark.IsWritten.isCarried {remark : Remark} {piece : List Char}
    (isWritten : remark.IsWritten piece) (isWritable : remark.IsWritable) :
    ';' ∉ piece ∧ ∃ clause, Clause.ofPiece? piece = some clause ∧ remark.IsCarried clause := by
  cases isWritten with
  | bare spells =>
    have uncut : ':' ∉ piece := Topic.not_mem_of_spells (.inr rfl) spells
    refine ⟨Topic.not_mem_of_spells (.inl rfl) spells, _,
      ofPiece?_of_uncut (Topic.trim_ne_nil_of_spells spells) uncut, ?_⟩
    exact ⟨comparedKey_of_spells spells none, rfl⟩
  | @empty topic key blanks spells areBlanks =>
    have unseparated : ';' ∉ blanks := areBlanks.not_mem (by decide)
    refine ⟨?_, _, ofPiece?_append_cons (Topic.not_mem_of_spells (.inr rfl) spells), ?_⟩
    · simp [Topic.not_mem_of_spells (.inl rfl) spells, unseparated]
    · rw [trim_of_areBlanks areBlanks]
      exact ⟨comparedKey_of_spells spells none, rfl⟩
  | @valued topic value key padded spells isPadded =>
    have isTidy : IsTidy value.toList := isWritable value rfl
    have unseparated : ';' ∉ padded := isPadded.not_mem (by decide) isTidy.unseparated
    refine ⟨?_, _, ofPiece?_append_cons (Topic.not_mem_of_spells (.inr rfl) spells), ?_⟩
    · simp [Topic.not_mem_of_spells (.inl rfl) spells, unseparated]
    · rw [isPadded.trim_eq isTidy, if_neg (by simpa using isTidy.nonempty)]
      exact ⟨comparedKey_of_spells spells _, by simp [Clause.text]⟩
  | @unknown key padded isPadded =>
    have isUnknown : IsUnknown key.toList := isWritable
    have trimmed := isPadded.trim_eq isUnknown.toIsTidy
    refine ⟨isPadded.not_mem (by decide) isUnknown.unseparated, _,
      ofPiece?_of_uncut (by rw [trimmed]; exact isUnknown.nonempty)
        (isPadded.not_mem (by decide) isUnknown.uncut), ?_⟩
    exact ⟨isUnknown.comparedKey_not_mem isPadded none, by simp [trimmed]⟩
  | @unknownValued key padded value isPadded unseparated =>
    have isUnknown : IsUnknown key.toList := isWritable
    have trimmed := isPadded.trim_eq isUnknown.toIsTidy
    refine ⟨?_, _, ofPiece?_append_cons (isPadded.not_mem (by decide) isUnknown.uncut), ?_⟩
    · simp [isPadded.not_mem (by decide) isUnknown.unseparated, unseparated]
    · exact ⟨isUnknown.comparedKey_not_mem isPadded _, by simp [trimmed]⟩

/-! ### All remarks -/

/-- Blank pieces come to nothing, and every remark comes to a clause. -/
theorem AreWritten.areCarried {remarks : List Remark} {pieces : List (List Char)}
    (areWritten : AreWritten remarks pieces) (writable : ∀ remark ∈ remarks, remark.IsWritable) :
    List.Forall₂ (fun remark clause => remark.IsCarried clause) remarks
      (pieces.flatMap clauses) := by
  induction areWritten with
  | none => exact .nil
  | @blank remarks piece pieces areBlanks behind inductionHypothesis =>
    have unseparated : ';' ∉ piece := areBlanks.not_mem (by decide)
    rw [List.flatMap_cons, clauses_of_free unseparated, ofPiece?_of_areBlanks areBlanks]
    exact inductionHypothesis writable
  | remark isWritten behind inductionHypothesis =>
    obtain ⟨writableHere, writableBehind⟩ := List.forall_mem_cons.mp writable
    obtain ⟨unseparated, clause, read, isCarried⟩ := isWritten.isCarried writableHere
    rw [List.flatMap_cons, clauses_of_free unseparated, read]
    exact .cons isCarried (inductionHypothesis writableBehind)

theorem Topic.key_mem_knownKeys (topic : Topic) : topic.key ∈ knownKeys := by
  cases topic <;> decide

theorem Topic.key_injective : Function.Injective Topic.key := by
  intro topic other same
  cases topic <;> cases other <;> first | rfl | exact absurd same (by decide)

section

variable {remarks : List Remark} {clauses : List Clause}
  (areCarried : List.Forall₂ (fun remark clause => remark.IsCarried clause) remarks clauses)

include areCarried

/-- What the clauses say under a key is what the remarks say on its topic. -/
theorem under_of_areCarried (topic : Topic) : under topic.key clauses = said topic remarks := by
  induction areCarried with
  | nil => rfl
  | @cons remark clause remarks clauses isCarried areCarried inductionHypothesis =>
    have behind : under topic.key (clause :: clauses) =
        under topic.key [clause] ++ under topic.key clauses := under_append _ [clause] clauses
    have front : under topic.key [clause] = (remark.on? topic).toList := by
      cases remark with
      | on other value =>
        obtain ⟨compared, text⟩ := isCarried
        by_cases same : other = topic
        · simp [under, Remark.on?, compared, text, same]
        · simp [under, Remark.on?, compared, same, Topic.key_injective.ne same]
      | unknown key =>
        have different : clause.comparedKey ≠ topic.key := fun same =>
          isCarried.1 (same ▸ topic.key_mem_knownKeys)
        simp [under, Remark.on?, different]
    rw [behind, front, inductionHypothesis, said, said, List.filterMap_cons]
    cases remark.on? topic <;> rfl

/-- None of the clauses is the mark that leaves a field out. -/
theorem under_mark_of_areCarried : under "-" clauses = [] := by
  induction areCarried with
  | nil => rfl
  | @cons remark clause remarks clauses isCarried areCarried inductionHypothesis =>
    have different : clause.comparedKey ≠ "-" := by
      cases remark with
      | on topic value =>
        rw [isCarried.1]
        cases topic <;> decide
      | unknown key => exact fun same => isCarried.1 (same ▸ by decide)
    rw [← inductionHypothesis]
    simp [under, different]

/-- The unknown keys of the clauses are those of the remarks. -/
theorem unknown_of_areCarried : (ofClauses clauses).unknown =
    remarks.filterMap Remark.unknown? := by
  induction areCarried with
  | nil => rfl
  | @cons remark clause remarks clauses isCarried areCarried inductionHypothesis =>
    rw [List.filterMap_cons, ← inductionHypothesis]
    cases remark with
    | on topic value => simp [ofClauses, Remark.unknown?, isCarried.1, topic.key_mem_knownKeys]
    | unknown key => simp [ofClauses, Remark.unknown?, isCarried.1, isCarried.2]

end

/-! ### Reading back -/

section

variable {part : Part} {said : List (Option String)} (isSaid : part.IsSaid said)

include isSaid

theorem Part.IsSaid.mem_texts {text : String} (member : some text ∈ said) : text ∈ part.texts := by
  cases part with
  | flag raised => exact absurd (isSaid.2 _ member) (by simp)
  | text value =>
    obtain ⟨same, found, equal⟩ := List.mem_map.mp (isSaid ▸ member)
    exact Option.some_inj.mp equal ▸ found
  | list names => exact List.mem_filterMap.mpr ⟨_, isSaid ▸ member, rfl⟩

end

theorem not_isEmpty_of_isSaid {raised : Bool} {said : List (Option String)}
    (isSaid : (Part.flag raised).IsSaid said) : (!said.isEmpty) = raised := by
  have raises := isSaid.1
  cases said <;> cases raised <;> simp_all

theorem getLast?_of_isSaid {value : Option String} {said : List (Option String)}
    (isSaid : (Part.text value).IsSaid said) : said.getLast?.join = value := by
  rw [show said = _ from isSaid]
  cases value <;> rfl

section

variable {remarks : List Remark} {tag : FieldTag} (makeUp : MakeUp remarks tag)
  (isWritable : tag.IsWritable)

include makeUp isWritable

/-- The remarks that make up a tag that can be written can be written. -/
theorem MakeUp.areWritable : ∀ remark ∈ remarks, remark.IsWritable := by
  intro remark member
  cases remark with
  | on topic value =>
    rintro text ⟨⟩
    have isSaid : some text ∈ said topic remarks :=
      List.mem_filterMap.mpr ⟨_, member, by simp [Remark.on?]⟩
    exact isWritable.texts topic text ((makeUp.parts topic).mem_texts isSaid)
  | unknown key =>
    have named : key ∈ tag.unknown :=
      makeUp.unknown ▸ List.mem_filterMap.mpr ⟨_, member, rfl⟩
    exact isWritable.unknown key named

/-- Clauses that carry the remarks that make up a tag come to the tag. -/
theorem MakeUp.ofClauses_eq {clauses : List Clause}
    (areCarried : List.Forall₂ (fun remark clause => remark.IsCarried clause) remarks clauses) :
    ofClauses clauses = tag := by
  have isSaid (topic : Topic) : (tag.part topic).IsSaid (under topic.key clauses) :=
    under_of_areCarried areCarried topic ▸ makeUp.parts topic
  have mark : (!(under "-" clauses).isEmpty) = tag.isIgnored := by
    rw [under_mark_of_areCarried areCarried, isWritable.isMapped]
    rfl
  have unknown : (ofClauses clauses).unknown = tag.unknown :=
    (unknown_of_areCarried areCarried).trans makeUp.unknown
  cases tag
  exact FieldTag.mk.injEq .. ▸ ⟨mark, not_isEmpty_of_isSaid (isSaid .primaryKey),
    not_isEmpty_of_isSaid (isSaid .autoIncrement), getLast?_of_isSaid (isSaid .column),
    getLast?_of_isSaid (isSaid .sqlType), getLast?_of_isSaid (isSaid .size),
    getLast?_of_isSaid (isSaid .precision), getLast?_of_isSaid (isSaid .scale),
    not_isEmpty_of_isSaid (isSaid .notNull), not_isEmpty_of_isSaid (isSaid .null),
    not_isEmpty_of_isSaid (isSaid .unique), getLast?_of_isSaid (isSaid .default),
    isSaid .index, isSaid .uniqueIndex, unknown⟩

end

/-- A tag that can be written is read back from every text that writes remarks that make it up. -/
theorem parse_written {remarks : List Remark} {tag : FieldTag} {pieces : List (List Char)}
    (isWritable : tag.IsWritable) (makeUp : MakeUp remarks tag)
    (areWritten : AreWritten remarks pieces) :
    parse (String.ofList ([';'].intercalate pieces)) = tag := by
  rw [parse_eq_ofClauses, String.toList_ofList, clauses_intercalate]
  exact makeUp.ofClauses_eq isWritable (areWritten.areCarried (makeUp.areWritable isWritable))

/-- Keys in capitals, blanks of all widths, pieces that are blank, colons in a value, and an unknown
key with a value. -/
theorem parse_written_departure :
    parse " Default : '12:30:00'\u3000;;NOT\t Null;uniqueIndex:u;\u2003;Serializer:json;INDEX:" =
      { isNotNull := true, defaultValue := some "'12:30:00'", indexes := [none],
        uniqueIndexes := [some "u"], unknown := ["Serializer"] } := by
  have stated : Remark.IsWritten (.on .default (some "'12:30:00'"))
      (" Default ".toList ++ ':' :: " '12:30:00'\u3000".toList) :=
    .valued (by decide) ⟨[' '], ['\u3000'], by decide, by decide, rfl⟩
  have notNull : Remark.IsWritten (.on .notNull none) "NOT\t Null".toList := .bare (by decide)
  have uniqueIndex : Remark.IsWritten (.on .uniqueIndex (some "u"))
      ("uniqueIndex".toList ++ ':' :: "u".toList) :=
    .valued (by decide) ⟨[], [], by decide, by decide, rfl⟩
  have unknown : Remark.IsWritten (.unknown "Serializer")
      ("Serializer".toList ++ ':' :: "json".toList) :=
    .unknownValued ⟨[], [], by decide, by decide, rfl⟩ (by decide)
  have index : Remark.IsWritten (.on .index none) ("INDEX".toList ++ ':' :: []) :=
    .empty (by decide) (by decide)
  have areWritten := AreWritten.remark stated <| .blank areBlanks_nil <| .remark notNull <|
    .remark uniqueIndex <| .blank (by decide : AreBlanks ['\u2003']) <| .remark unknown <|
    .remark index .none
  refine (congrArg parse ?_).trans (parse_written ?_ ?_ areWritten)
  · decide
  · refine ⟨rfl, fun topic => ?_, List.forall_mem_singleton.mpr ?_⟩
    · cases topic <;> decide
    · exact ⟨by decide, by decide, by decide⟩
  · refine ⟨fun topic => ?_, by decide⟩
    cases topic <;> decide

end FieldTag

end RecordMapper
