/-
This file reads the parts of JSON that requests are written in. Numbers are read as whole numbers
of 64 bits, strings with all their escapes, and any value can be passed over. What is passed over
must still be well formed, except that its strings may name halves of surrogate pairs. Every
reader answers what follows, or nothing where the text is not as it should be.
-/

import RecordMapper.Text.Hexadecimal
import RecordMapper.Text.Numeral

namespace RecordMapper.Json

open RecordMapper.Text

/-! ### Blanks and marks -/

/-- The characters that may stand between the parts of a text. -/
def isSpace (character : Char) : Bool :=
  character == ' ' || character == '\n' || character == '\t' || character == '\r'

/-- The text without leading blanks. -/
def skipSpaces (text : List Char) : List Char :=
  text.dropWhile isSpace

/-- What follows a mark, after blanks. -/
def expect? (mark : Char) (text : List Char) : Option (List Char) :=
  match skipSpaces text with
  | [] => none
  | character :: rest => if character == mark then some rest else none

/-! ### Numbers -/

/-- The leading digits of a text and what follows; a zero stands alone. -/
def takeDigits? (text : List Char) : Option (List Char × List Char) :=
  let digits := text.takeWhile Char.isDigit
  let rest := text.dropWhile Char.isDigit
  match digits with
  | [] => none
  | ['0'] => some (digits, rest)
  | '0' :: _ => none
  | _ => some (digits, rest)

/-- What follows a point and digits, or the text if it has no point. -/
def skipFraction? : List Char → Option (List Char)
  | '.' :: rest =>
    if (rest.takeWhile Char.isDigit).isEmpty then none else some (rest.dropWhile Char.isDigit)
  | text => some text

/-- What follows the digits of an exponent after its sign. -/
def skipPower? (text : List Char) : Option (List Char) :=
  let digits :=
    match text with
    | '+' :: rest => rest
    | '-' :: rest => rest
    | rest => rest
  if (digits.takeWhile Char.isDigit).isEmpty then none else some (digits.dropWhile Char.isDigit)

/-- What follows an exponent, or the text if it has none. -/
def skipExponent? : List Char → Option (List Char)
  | 'e' :: rest => skipPower? rest
  | 'E' :: rest => skipPower? rest
  | text => some text

/-- What follows a number. -/
def skipNumber? (text : List Char) : Option (List Char) :=
  let unsigned :=
    match text with
    | '-' :: rest => rest
    | rest => rest
  match takeDigits? unsigned with
  | none => none
  | some (_, rest) => (skipFraction? rest).bind skipExponent?

/-- A whole number of 64 bits and what follows. Signs, points and exponents make it another sort
of number, even where the value would be the same. -/
def number? (text : List Char) : Option (UInt64 × List Char) :=
  match takeDigits? (skipSpaces text) with
  | none => none
  | some (digits, rest) =>
    match rest, Text.natural? digits with
    | '.' :: _, _ => none
    | 'e' :: _, _ => none
    | 'E' :: _, _ => none
    | _, some value => if value < Nat.pow 2 64 then some (UInt64.ofNat value, rest) else none
    | _, none => none

/-! ### Strings -/

/-- The code unit of four hexadecimal digits, and what follows. -/
def codeUnit? : List Char → Option (Nat × List Char)
  | first :: second :: third :: fourth :: rest =>
    match hexValue? first, hexValue? second, hexValue? third, hexValue? fourth with
    | some a, some b, some c, some d => some (4096 * a + 256 * b + 16 * c + d, rest)
    | _, _, _, _ => none
  | _ => none

/-- The character that a letter after a backslash stands for. -/
def escapedCharacter? : Char → Option Char
  | '"' => some '"'
  | '\\' => some '\\'
  | '/' => some '/'
  | 'b' => some '\x08'
  | 'f' => some '\x0c'
  | 'n' => some '\n'
  | 'r' => some '\r'
  | 't' => some '\t'
  | _ => none

/-- The character of one code unit or of a pair of them, and what follows. -/
def unicodeEscape? (text : List Char) : Option (Char × List Char) :=
  match codeUnit? text with
  | none => none
  | some (high, rest) =>
    if 0xD800 ≤ high ∧ high ≤ 0xDBFF then
      match rest with
      | '\\' :: 'u' :: after =>
        match codeUnit? after with
        | some (low, last) =>
          if 0xDC00 ≤ low ∧ low ≤ 0xDFFF then
            some (Char.ofNat (0x10000 + 1024 * (high - 0xD800) + (low - 0xDC00)), last)
          else none
        | none => none
      | _ => none
    else if 0xDC00 ≤ high ∧ high ≤ 0xDFFF then none
    else some (Char.ofNat high, rest)

/-- The characters of a string whose opening quote has been read, and what follows the closing
one. The first argument bounds the number of characters. -/
def stringBody? : Nat → List Char → Option (List Char × List Char)
  | 0, _ => none
  | _ + 1, [] => none
  | bound + 1, character :: rest =>
    if character == '"' then some ([], rest)
    else if character == '\\' then
      match rest with
      | [] => none
      | 'u' :: after =>
        match unicodeEscape? after with
        | none => none
        | some (meant, further) =>
          (stringBody? bound further).map fun (body, last) => (meant :: body, last)
      | letter :: after =>
        match escapedCharacter? letter with
        | none => none
        | some meant => (stringBody? bound after).map fun (body, last) => (meant :: body, last)
    else if character.toNat < 0x20 then none
    else (stringBody? bound rest).map fun (body, last) => (character :: body, last)

/-- A string and what follows. -/
def string? (text : List Char) : Option (String × List Char) :=
  match expect? '"' text with
  | none => none
  | some rest =>
    (stringBody? (rest.length + 1) rest).map fun (body, last) => (String.ofList body, last)

/-- What follows the closing quote of a string whose opening one has been read. -/
def skipString? : Nat → List Char → Option (List Char)
  | 0, _ => none
  | _ + 1, [] => none
  | bound + 1, character :: rest =>
    if character == '"' then some rest
    else if character == '\\' then
      match rest with
      | [] => none
      | 'u' :: after => (codeUnit? after).bind fun (_, further) => skipString? bound further
      | letter :: after => (escapedCharacter? letter).bind fun _ => skipString? bound after
    else if character.toNat < 0x20 then none
    else skipString? bound rest

/-! ### Any value -/

mutual

/-- What follows a value. The first argument bounds the depth and the length of what is read. -/
def skipValue? : Nat → List Char → Option (List Char)
  | 0, _ => none
  | bound + 1, text =>
    match skipSpaces text with
    | '"' :: rest => skipString? (rest.length + 1) rest
    | '[' :: rest =>
      match expect? ']' rest with
      | some after => some after
      | none => skipItems? bound rest
    | '\x7b' :: rest =>
      match expect? '\x7d' rest with
      | some after => some after
      | none => skipMembers? bound rest
    | 't' :: 'r' :: 'u' :: 'e' :: rest => some rest
    | 'f' :: 'a' :: 'l' :: 's' :: 'e' :: rest => some rest
    | 'n' :: 'u' :: 'l' :: 'l' :: rest => some rest
    | other => skipNumber? other

/-- What follows the items of an array and its closing bracket. -/
def skipItems? : Nat → List Char → Option (List Char)
  | 0, _ => none
  | bound + 1, text =>
    match skipValue? bound text with
    | none => none
    | some rest =>
      match skipSpaces rest with
      | ',' :: after => skipItems? bound after
      | ']' :: after => some after
      | _ => none

/-- What follows the members of an object and its closing brace. -/
def skipMembers? : Nat → List Char → Option (List Char)
  | 0, _ => none
  | bound + 1, text =>
    match expect? '"' text with
    | none => none
    | some opened =>
      match (skipString? (opened.length + 1) opened).bind (expect? ':') with
      | none => none
      | some valued =>
        match skipValue? bound valued with
        | none => none
        | some rest =>
          match skipSpaces rest with
          | ',' :: after => skipMembers? bound after
          | '\x7d' :: after => some after
          | _ => none

end

/-- What follows a value of any sort. -/
def skip? (text : List Char) : Option (List Char) :=
  skipValue? (2 * text.length + 2) text

end RecordMapper.Json
