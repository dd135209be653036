/-
This file reads migration scripts. A script is read line by line. Marker lines open its two
sections and the blocks inside them; blank lines and, outside of blocks, comments are passed over;
all other lines belong to statements of the section that is open. Outside of a block a statement
ends with the line that ends in a semicolon, and a block is one statement whatever it holds. A
section or a block may not begin where it cannot, nothing may stand before the first section, and
a script without statements to apply is none.
-/

import RecordMapper.Error

namespace RecordMapper.Migration

open RecordMapper.Text

/-! ### Lines -/

/-- The lines of a text: a line feed ends one, with or without a carriage return before it. -/
def lines (text : List Char) : List (List Char) :=
  let parts := pieces (· == '\n') text
  let ended := parts.dropLast.map fun line =>
    if line.getLast? = some '\r' then line.dropLast else line
  match parts.getLast? with
  | some last => if last.isEmpty then ended else ended ++ [last]
  | none => ended

/-- The directive of a marker line without the blanks around it; other lines have none. -/
def directive? (line : List Char) : Option String := do
  let comment ← withoutOpening ['-', '-'] line
  let directive ← withoutOpening "+migrate".toList (asciiLower (trimStart comment))
  return String.ofList ((words directive).headD [])

/-! ### Scripts -/

/-- The statements that apply a migration and those that take it back. -/
structure Script where
  up : List String := []
  down : List String := []
  deriving DecidableEq

/-- A part of a script. -/
inductive Section
  | up
  | down
  deriving DecidableEq

/-- The script with one more statement in a section. -/
def Script.add (script : Script) (opened : Section) (statement : String) : Script :=
  match opened with
  | .up => { script with up := script.up ++ [statement] }
  | .down => { script with down := script.down ++ [statement] }

/-- How far a script has been read. -/
structure Progress where
  script : Script := {}
  /-- The section that is open, if any. -/
  current : Option Section := none
  hasUp : Bool := false
  inBlock : Bool := false
  /-- The lines of the statement that is being read. -/
  pending : List (List Char) := []

namespace Progress

/-- The progress once the statement that is being read has ended; a blank one is none. -/
def finishStatement (progress : Progress) : Progress :=
  let statement := trim (progress.pending.flatMap fun line => line ++ ['\n'])
  let script :=
    match statement, progress.current with
    | [], _ => progress.script
    | _, none => progress.script
    | _, some opened => progress.script.add opened (String.ofList statement)
  { progress with script := script, pending := [] }

/-- The progress once a section has been opened. -/
def openSection (progress : Progress) (line : Nat) (opened : Section) :
    Except ArgumentFault Progress :=
  if progress.inBlock then .error (.sectionInBlock line)
  else
    .ok
      { progress.finishStatement with
        current := some opened, hasUp := progress.hasUp || opened == .up }

/-- The progress after a marker line. -/
def followDirective (progress : Progress) (line : Nat) (directive : String) :
    Except ArgumentFault Progress :=
  if directive = "up" then progress.openSection line .up
  else if directive = "down" then progress.openSection line .down
  else if directive = "statementbegin" then .ok { progress with inBlock := true }
  else if directive = "statementend" then .ok { progress.finishStatement with inBlock := false }
  else .error (.unknownDirective line directive)

/-- Whether a line without the blanks around it belongs to no statement. -/
def passesOver (progress : Progress) (trimmed : List Char) : Bool :=
  trimmed.isEmpty || (!progress.inBlock && (withoutOpening ['-', '-'] trimmed).isSome)

/-- The progress after a line that is no marker. -/
def addLine (progress : Progress) (number : Nat) (line : List Char) :
    Except ArgumentFault Progress :=
  let trimmed := trim line
  if progress.passesOver trimmed then .ok progress
  else if progress.current.isNone then .error (.beforeSection number)
  else
    let further := { progress with pending := progress.pending ++ [line] }
    let isEnd := !progress.inBlock && trimmed.getLast? == some ';'
    .ok (if isEnd then further.finishStatement else further)

/-- The progress after a line. -/
def read (progress : Progress) (number : Nat) (line : List Char) : Except ArgumentFault Progress :=
  match directive? (trim line) with
  | some directive => progress.followDirective number directive
  | none => progress.addLine number line

/-- The progress after lines that are numbered from a number on. -/
def readAll (progress : Progress) (number : Nat) :
    List (List Char) → Except ArgumentFault Progress
  | [] => .ok progress
  | line :: rest =>
    match progress.read number line with
    | .error fault => .error fault
    | .ok further => further.readAll (number + 1) rest

end Progress

/-- The script that a text stands for. -/
def Script.parse (source : String) : Except ArgumentFault Script :=
  match ({} : Progress).readAll 1 (lines source.toList) with
  | .error fault => .error fault
  | .ok progress =>
    if progress.inBlock then .error .openBlock
    else if progress.hasUp then .ok progress.finishStatement.script
    else .error .noUpSection

end RecordMapper.Migration
