/-
This file turns names of any spelling into snake case. A name is cut at every character that is
no letter and no number, and each piece once more where its letters change case: between a lower
case letter and an upper case one, and before the last of several upper case letters that a
lower case one follows. Characters without case belong to the word around them and leave the
case seen last in force. The words are put in lower case and joined by underscores.
-/

import RecordMapper.Text.Alphanumeric
import RecordMapper.Text.Blank
import RecordMapper.Text.LetterCase

namespace RecordMapper.Naming

open RecordMapper.Text

/-- The case of the letter seen last in a word. -/
inductive LastCase
  | unknown
  | lower
  | upper
  deriving DecidableEq

/-- The case in force after one more character. -/
def LastCase.after (last : LastCase) (character : Char) : LastCase :=
  if isLowercase character then .lower else if isUppercase character then .upper else last

/-- The words of a piece, given the case in force and the word begun, last character first. -/
def caseWords (last : LastCase) (word : List Char) : List Char → List (List Char)
  | [] => []
  | [character] => [(character :: word).reverse]
  | character :: next :: rest =>
    if last.after character = .lower ∧ isUppercase next then
      (character :: word).reverse :: caseWords .unknown [] (next :: rest)
    else if last = .upper ∧ isUppercase character ∧ isLowercase next then
      word.reverse :: caseWords .unknown [character] (next :: rest)
    else caseWords (last.after character) (character :: word) (next :: rest)

/-- The words of a name, in their own spelling. -/
def nameWords (name : List Char) : List (List Char) :=
  (pieces (fun character => !isAlphanumeric character) name).flatMap (caseWords .unknown [])

/-- A name in snake case. -/
def snakeCase (name : List Char) : List Char :=
  ['_'].intercalate ((nameWords name).map lowerWord)

/-- A name without the mark of a raw identifier. -/
def withoutRawMark (name : List Char) : List Char :=
  (withoutOpening ['r', '#'] name).getD name

end RecordMapper.Naming
