/-
This file cuts text at blanks. A blank is a character with the `White_Space` property; tags,
filter keys, scripts and the texts of numbers and dates are all trimmed of blanks, and some
are cut into words. Text is worked on as a list of characters, so that what is kept and what
is dropped are plain list equations; the two functions on strings at the end are the same
cuts seen from outside.
-/

namespace RecordMapper.Text

/-! ### Blanks -/

/-- The characters with the `White_Space` property. -/
def isBlank (character : Char) : Bool :=
  let code := character.toNat
  (0x09 ≤ code && code ≤ 0x0D) || code == 0x20 || code == 0x85 || code == 0xA0 ||
    code == 0x1680 || (0x2000 ≤ code && code ≤ 0x200A) || code == 0x2028 ||
    code == 0x2029 || code == 0x202F || code == 0x205F || code == 0x3000

/-! ### Trimming -/

/-- The text without its leading blanks. -/
def trimStart (text : List Char) : List Char :=
  text.dropWhile isBlank

/-- The text without its trailing blanks. -/
def trimEnd (text : List Char) : List Char :=
  (text.reverse.dropWhile isBlank).reverse

/-- The text without the blanks around it. -/
def trim (text : List Char) : List Char :=
  trimEnd (trimStart text)

/-! ### Pieces and words -/

/-- The pieces between separators, empty ones included: one more than there are separators. -/
def pieces (separates : Char → Bool) : List Char → List (List Char)
  | [] => [[]]
  | character :: rest =>
    if separates character then [] :: pieces separates rest
    else
      match pieces separates rest with
      | [] => [[character]]
      | first :: others => (character :: first) :: others

/-- The words of a text: its maximal runs without a blank. -/
def words (text : List Char) : List (List Char) :=
  (pieces isBlank text).filter fun word => !word.isEmpty

/-- The words of a text with one space between neighbours. -/
def singleSpaced (text : List Char) : List Char :=
  [' '].intercalate (words text)

/-- What stands before and after the first separator, if there is one. -/
def cut (separator : Char) : List Char → Option (List Char × List Char)
  | [] => none
  | character :: rest =>
    if character == separator then some ([], rest)
    else (cut separator rest).map fun (before, after) => (character :: before, after)

/-- What follows a given opening, if the text begins with it. -/
def withoutOpening : List Char → List Char → Option (List Char)
  | [], text => some text
  | _ :: _, [] => none
  | expected :: opening, character :: rest =>
    if expected == character then withoutOpening opening rest else none

/-! ### The same on strings -/

/-- The string without the blanks around it. -/
def trimmed (text : String) : String :=
  String.ofList (trim text.toList)

/-- Whether the string holds nothing but blanks. -/
def isAllBlank (text : String) : Bool :=
  text.toList.all isBlank

/-! ### Letters of the basic alphabet -/

/-- The text with the letters `A` to `Z` in lower case and all else unchanged. -/
def asciiLower (text : List Char) : List Char :=
  text.map Char.toLower

/-- The string with the letters `A` to `Z` in lower case and all else unchanged. -/
def asciiLowered (text : String) : String :=
  String.ofList (asciiLower text.toList)

end RecordMapper.Text
