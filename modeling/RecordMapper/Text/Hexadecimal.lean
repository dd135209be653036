/-
This file writes numbers and bytes in base sixteen with lower-case digits, and reads single
digits of either case. Identifiers, byte strings and escape sequences are built from it.
-/

namespace RecordMapper.Text

/-- The lower-case hexadecimal digit of a number below sixteen. -/
def hexDigit (value : Nat) : Char :=
  if value < 10 then Char.ofNat (48 + value) else Char.ofNat (87 + value)

/-- The value of a hexadecimal digit of either case. -/
def hexValue? (character : Char) : Option Nat :=
  let code := character.toNat
  if 48 ≤ code && code ≤ 57 then some (code - 48)
  else if 97 ≤ code && code ≤ 102 then some (code - 87)
  else if 65 ≤ code && code ≤ 70 then some (code - 55)
  else none

/-- The two digits of one byte. -/
def hexByte (byte : UInt8) : List Char :=
  [hexDigit (byte.toNat / 16), hexDigit (byte.toNat % 16)]

/-- The digits of a sequence of bytes, two for each. -/
def hexBytes (bytes : List UInt8) : List Char :=
  bytes.flatMap hexByte

/-- The bytes written by an even run of hexadecimal digits. -/
def bytesOfHex? : List Char → Option (List UInt8)
  | [] => some []
  | high :: low :: rest =>
    match hexValue? high, hexValue? low, bytesOfHex? rest with
    | some highValue, some lowValue, some bytes =>
      some (UInt8.ofNat (16 * highValue + lowValue) :: bytes)
    | _, _, _ => none
  | [_] => none

/-- The shortest hexadecimal text of a number. -/
def hexNatural (value : Nat) : List Char :=
  Nat.toDigits 16 value

end RecordMapper.Text
