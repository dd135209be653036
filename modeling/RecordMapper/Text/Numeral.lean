/-
This file reads and writes whole numbers in decimal. A numeral is a run of the ten digits; a
sign may stand in front where the reader allows one. Nothing else is skipped or ignored, so a
blank, a separator or a digit of another script makes the text no numeral.
-/

import RecordMapper.Text.Blank

namespace RecordMapper.Text

/-! ### Digits -/

/-- The value of one of the digits `0` to `9`. -/
def digitValue? (character : Char) : Option Nat :=
  if character.isDigit then some (character.toNat - 48) else none

/-- The value of a run of digits, read onto a number that stands before it. -/
def readDigits (start : Nat) : List Char → Option Nat
  | [] => some start
  | character :: rest =>
    match digitValue? character with
    | some digit => readDigits (10 * start + digit) rest
    | none => none

/-! ### Numerals -/

/-- A number written as one or more digits and nothing else. -/
def natural? (text : List Char) : Option Nat :=
  if text.isEmpty then none else readDigits 0 text

/-- A number written as digits, after a plus sign or none. -/
def unsigned? : List Char → Option Nat
  | '+' :: rest => natural? rest
  | text => natural? text

/-- A number written as digits, after a plus sign, a minus sign or none. -/
def integer? : List Char → Option Int
  | '-' :: rest => (natural? rest).map fun value => -(value : Int)
  | text => (unsigned? text).map fun value => (value : Int)

/-! ### Writing -/

/-- The decimal digits of a number, without leading zeros. -/
def naturalText (value : Nat) : String :=
  String.ofList (Nat.toDigits 10 value)

/-- The decimal digits of a number after a minus sign if it is negative. -/
def integerText (value : Int) : String :=
  if value < 0 then "-" ++ naturalText value.natAbs else naturalText value.natAbs

/-- The decimal digits of a number, filled with zeros in front up to a width. -/
def paddedText (width value : Nat) : String :=
  let digits := Nat.toDigits 10 value
  String.ofList (List.replicate (width - digits.length) '0' ++ digits)

end RecordMapper.Text
