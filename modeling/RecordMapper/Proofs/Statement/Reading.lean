/-
This file says as which items the fragments of a statement are read, once arguments are in the place
of markers: the words and names of each text as they stand there, and for each argument its value.
The reader sees only one text with markers and casts in it; that it finds these items is proved
along the way in which the fragments compose.
-/

import RecordMapper.Proofs.Sql.Where
import RecordMapper.Proofs.Statement.Fragments

namespace RecordMapper

open Sql

/-! ### Items of fragments -/

/-- The item as which a token is read that is no marker. -/
def Sql.Token.item? : Token → Option Item
  | .name quoted => some (.name (String.ofList quoted))
  | .word text => some (.word (String.ofList text))
  | .operator text => some (.operator (String.ofList text))
  | .symbol character => some (.symbol character)
  | .openName _ | .marker _ => none

/-- The items as which a text without markers is read. -/
def textItems (quote : Char) (text : String) : List Item :=
  (tokens quote text.toList).filterMap Token.item?

/-- The items as which a fragment is read. -/
def Fragment.items (quote : Char) : Fragment → List Item
  | .text sql => textItems quote sql
  | .argument given => [.value given.1]

/-- Whether a token is read as it stands, being neither a marker nor an open name nor part of a
cast. -/
def Sql.Token.isReadable : Token → Bool
  | .openName _ | .marker _ => false
  | .symbol character => character != ':'
  | .name _ | .word _ | .operator _ => true

section

variable {arguments : List Argument} {met : Nat}

/-- A token that is read as it stands is read as its item. -/
theorem supply_cons {token : Token} (readable : token.isReadable = true) :
    ∃ item, token.item? = some item ∧ ∀ rest,
      supply arguments met (token :: rest) = (supply arguments met rest).map (item :: ·) := by
  cases token with
  | openName name => cases readable
  | marker text => cases readable
  | symbol character =>
    have noColon : character ≠ ':' := by simpa [Token.isReadable] using readable
    refine ⟨_, rfl, fun rest => ?_⟩
    rw [supply]
    exact fun _ _ _ colon => noColon colon
  | name quoted => exact ⟨_, rfl, fun rest => by rw [supply]⟩
  | word text => exact ⟨_, rfl, fun rest => by rw [supply]⟩
  | operator text => exact ⟨_, rfl, fun rest => by rw [supply]⟩

/-- Tokens that are read as they stand are read in turn. -/
theorem supply_readable {read rest : List Token}
    (readable : ∀ token ∈ read, token.isReadable = true) :
    supply arguments met (read ++ rest) =
      (supply arguments met rest).map (read.filterMap Token.item? ++ ·) := by
  induction read with
  | nil => simp
  | cons token later inductionHypothesis =>
    obtain ⟨item, found, first⟩ := supply_cons (readable token List.mem_cons_self)
    have reading := inductionHypothesis fun each member =>
      readable each (List.mem_cons_of_mem _ member)
    rw [List.cons_append, first, reading, Option.map_map, List.filterMap_cons, found]
    rfl

end

variable {dialect : Dialect} {words : List String}

/-- The marker of a lawful dialect for a position stands for the argument at that position. -/
theorem markerPosition_placeholder (lawful : dialect.IsLawful words) (met : Nat) :
    markerPosition met (dialect.placeholder (met + 1)).toList = met + 1 := by
  have numbered (mark : Char) :
      markerPosition met (mark :: Nat.toDigits 10 (met + 1)) = met + 1 := by
    cases digits : Nat.toDigits 10 (met + 1) with
    | nil => exact absurd digits Nat.toDigits_ne_nil
    | cons digit rest =>
      rw [markerPosition, ← digits]
      exact Nat.ofDigitChars_ten_toDigits
  have written := lawful.placeholder (met + 1)
  simp only [List.mem_cons, List.not_mem_nil, or_false] at written
  rcases written with equal | equal | equal
  · rw [equal]
    rfl
  · rw [equal, String.toList_append, Text.toList_naturalText, String.toList_ofList]
    exact numbered '?'
  · rw [equal, String.toList_append, Text.toList_naturalText, String.toList_ofList]
    exact numbered '$'

/-- A cast of a lawful dialect is passed over. -/
theorem supply_cast (lawful : dialect.IsLawful words) (kind : Kind) {arguments : List Argument}
    {met : Nat} {rest : List Token} :
    supply arguments met
        (tokens dialect.quoteCharacter (dialect.bindCast kind).toList ++ rest) =
      supply arguments met rest := by
  have plain : (dialect.bindCast kind).toList.all isPlain = true := by
    have fitting := lawful.bindCast kind
    rw [isPhrase, Bool.and_eq_true] at fitting
    exact isPlain_of_isFitting fitting.1
  rw [tokens_of_isPlain lawful.quoteCharacter plain]
  rcases lawful.bindCast_tokens kind with nothing | ⟨word, cast⟩
  · rw [nothing]
    rfl
  · rw [cast]
    show supply arguments met (.symbol ':' :: .symbol ':' :: .word word :: rest) = _
    rw [supply]

/-- Fragments that compose are read as their items, if the arguments are those that were bound
before and theirs. -/
theorem Composes.reads {start finish : Edge} {fragments : List Fragment}
    (lawful : dialect.IsLawful words)
    (composes : Composes dialect (fun token => token.isReadable = true) start fragments finish)
    {earlier arguments : List Argument} (bound : arguments = earlier ++ supplied fragments) :
    supply arguments earlier.length
        (tokens dialect.quoteCharacter (written dialect earlier.length fragments).toList) =
      some (fragments.flatMap (Fragment.items dialect.quoteCharacter)) := by
  induction composes generalizing earlier with
  | nil => rfl
  | idle => rfl
  | text passage later inductionHypothesis =>
    rw [written, String.toList_append,
      tokens_append passage.flows (later.flows lawful earlier.length),
      supply_readable passage.permitted, inductionHypothesis bound]
    rfl
  | @argument _ argument rest _ later inductionHypothesis =>
    obtain ⟨read, marker⟩ := lex_marker lawful.quoteCharacter (lawful.isMarker (earlier.length + 1))
    have one : tokens dialect.quoteCharacter (dialect.placeholder (earlier.length + 1)).toList =
        [.marker (dialect.placeholder (earlier.length + 1)).toList] := by
      rw [tokens, read, List.map_cons, List.map_nil]
    have cast := (lawful.cast argument.2).flows
    have next := later.flows lawful (earlier.length + 1)
    have together : arguments = (earlier ++ [argument]) ++ supplied rest := by
      rw [bound, List.append_assoc]
      rfl
    have reading := inductionHypothesis together
    rw [List.length_append, List.length_singleton] at reading
    have supplied : arguments[earlier.length]? = some argument := by
      rw [bound, List.getElem?_append_right (Nat.le_refl _), Nat.sub_self]
      rfl
    rw [written, String.toList_append, String.toList_append, List.append_assoc,
      tokens_append marker (cast.append next), tokens_append cast next, one, List.singleton_append,
      Sql.supply, markerPosition_placeholder lawful]
    simp only [supplied, supply_cast lawful, reading]
    rfl

end RecordMapper
