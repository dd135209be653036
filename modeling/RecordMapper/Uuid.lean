/-
This file holds universally unique identifiers: sixteen bytes, written as thirty-two
hexadecimal digits in five groups. They are read with the hyphens at their places or with none
at all, plain, in braces or behind the `urn:uuid:` opening. A text that is no identifier is
refused with the one cause that its first defect calls for: its length, a foreign character
and where it stands, the number of groups, or the length of one group.
-/

import RecordMapper.Text.Blank
import RecordMapper.Text.Hexadecimal
import RecordMapper.Text.Numeral

namespace RecordMapper

open RecordMapper.Text

/-- A universally unique identifier. -/
structure Uuid where
  bytes : List UInt8
  isComplete : bytes.length = 16
  deriving DecidableEq

namespace Uuid

/-- The identifier made of the given bytes, if there are sixteen. -/
def ofBytes? (bytes : List UInt8) : Option Uuid :=
  if isComplete : bytes.length = 16 then some ⟨bytes, isComplete⟩ else none

/-- The identifier of sixteen zero bytes. -/
def zero : Uuid := ⟨List.replicate 16 0, List.length_replicate⟩

/-! ### Writing -/

/-- The five groups of digits with hyphens between them. -/
def text (uuid : Uuid) : String :=
  let group (first count : Nat) := hexBytes ((uuid.bytes.drop first).take count)
  String.ofList (['-'].intercalate [group 0 4, group 4 2, group 6 2, group 8 2, group 10 6])

/-! ### Defects -/

/-- Why a text or a sequence of bytes is no identifier. -/
inductive Defect
  | length (found : Nat)
  | foreign (found : Char) (offset : Nat)
  | groupCount (found : Nat)
  | groupLength (group expected found : Nat)
  | byteCount (found : Nat)
  deriving DecidableEq

/-- The wording of a defect. -/
def Defect.message : Defect → String
  | .length found => "invalid length: found " ++ naturalText found
  | .foreign found offset =>
    "invalid character: found `" ++ found.toString ++ "` at " ++ naturalText offset
  | .groupCount found => "invalid group count: expected 5, found " ++ naturalText found
  | .groupLength group expected found =>
    "invalid group length in group " ++ naturalText group ++ ": expected " ++
      naturalText expected ++ ", found " ++ naturalText found
  | .byteCount found => "invalid length: expected 16 bytes, found " ++ naturalText found

/-! ### Reading -/

/-- How many bytes a text takes. -/
def byteLength (text : List Char) : Nat :=
  text.foldr (fun character rest => character.utf8Size + rest) 0

/-- The identifier written as digits alone. -/
def ofPlain? (text : List Char) : Option Uuid :=
  (bytesOfHex? text).bind ofBytes?

/-- The places of the hyphens in the grouped form. -/
def hyphenPlaces : List Nat := [8, 13, 18, 23]

/-- The identifier written as five groups. -/
def ofGrouped? (text : List Char) : Option Uuid :=
  if hyphenPlaces.all fun place => text[place]? == some '-' then
    if text.length = 36 then ofPlain? (text.filter (· != '-')) else none
  else none

/-- How a text is framed: what stands inside, where it begins, and whether it is framed. -/
structure Frame where
  inner : List Char
  start : Nat
  isFramed : Bool

/-- What stands in braces, behind the opening `urn:uuid:`, or else the text itself. -/
def Frame.of (text : List Char) : Frame :=
  let opening := text.take 9
  if text.head? = some '\x7b' ∧ text.getLast? = some '\x7d' ∧ 1 < text.length then
    ⟨(text.drop 1).dropLast, 1, true⟩
  else if asciiLower opening = "urn:uuid:".toList then ⟨text.drop 9, 9, true⟩
  else ⟨text, 0, false⟩

/-- The first character that is neither a digit nor a hyphen, with its place in bytes. -/
def foreign? (offset : Nat) : List Char → Option (Char × Nat)
  | [] => none
  | character :: rest =>
    if (hexValue? character).isSome || character == '-' then
      foreign? (offset + character.utf8Size) rest
    else some (character, offset)

/-- The places of the hyphens of a text. -/
def hyphensFrom (offset : Nat) : List Char → List Nat
  | [] => []
  | character :: rest =>
    let further := hyphensFrom (offset + 1) rest
    if character == '-' then offset :: further else further

/-- The first group that does not end where it should, given as its number and its start, the
length expected of it, and the place of the hyphen that ends it. -/
def misplaced? : List (Nat × Nat × Nat) → List Nat → Option Defect
  | (group, start, expected) :: groups, hyphen :: hyphens =>
    if hyphen = start + expected then misplaced? groups hyphens
    else some (.groupLength group expected (hyphen - start))
  | _, _ => none

/-- What is looked into when a text of this many bytes is refused. A text as long as the grouped
form is taken for one, whatever it begins with. -/
def Frame.ofRefused (text : List Char) (length : Nat) : Frame :=
  if length = 36 then ⟨text, 0, false⟩ else Frame.of text

/-- Whether a text of this many bytes with this frame is judged as five groups. -/
def isJudgedGrouped (frame : Frame) (length : Nat) : Bool :=
  length == if frame.isFramed then (if frame.start = 1 then 38 else 45) else 36

/-- The cause for which a text is refused. -/
def defect (text : List Char) : Defect :=
  let length := byteLength text
  if length = 0 ∨ 45 < length then .length length
  else
    let frame := Frame.ofRefused text length
    let grouped := isJudgedGrouped frame length
    match foreign? (if grouped then 0 else frame.start) frame.inner with
    | some (found, offset) => .foreign found offset
    | none =>
      let hyphens := hyphensFrom 0 frame.inner
      if hyphens.isEmpty && !frame.isFramed && !grouped then .length length
      else if hyphens.length ≠ 4 then .groupCount (hyphens.length + 1)
      else
        match misplaced? [(0, 0, 8), (1, 9, 4), (2, 14, 4), (3, 19, 4)] hyphens with
        | some found => found
        | none => .groupLength 4 12 (length - 24)

/-- The identifier that a text stands for, or the cause for refusing it. -/
def read (text : List Char) : Except Defect Uuid :=
  let frame := Frame.of text
  let found :=
    if frame.isFramed then ofGrouped? frame.inner
    else (ofPlain? text).orElse fun _ => ofGrouped? text
  match found with
  | some uuid => .ok uuid
  | none => .error (defect text)

/-- The identifier of sixteen bytes, or the cause for refusing them. -/
def readBytes (bytes : List UInt8) : Except Defect Uuid :=
  match ofBytes? bytes with
  | some uuid => .ok uuid
  | none => .error (.byteCount bytes.length)

end Uuid

end RecordMapper
