/-
This file is about binary floating-point numbers as bit patterns. A format is given by the
width of its fraction and of its exponent; a pattern stands for a number that is none, for an
infinity, or for a sign with a significand times a power of two. Going back, a quotient of
whole numbers is rounded to the nearest pattern, a tie to the even one, and to an infinity
beyond the greatest number. Everything is exact arithmetic on whole numbers, so no property of
the machine's own floating point enters.
-/

namespace RecordMapper.Number

/-! ### Formats and what a pattern stands for -/

/-- A binary floating-point format: a sign, an exponent and a fraction. -/
structure BinaryFormat where
  fractionBits : Nat
  exponentBits : Nat

/-- The format of 32 bits. -/
def single : BinaryFormat := ⟨23, 8⟩

/-- The format of 64 bits. -/
def double : BinaryFormat := ⟨52, 11⟩

/-- What a pattern stands for; a finite one is `significand · 2 ^ exponent` under its sign. -/
inductive Figure
  | notANumber
  | infinite (negative : Bool)
  | finite (negative : Bool) (significand : Nat) (exponent : Int)
  deriving DecidableEq, Repr

namespace BinaryFormat

/-- The exponent field that infinities and patterns that are no number carry. -/
def topField (format : BinaryFormat) : Nat :=
  Nat.pow 2 format.exponentBits - 1

/-- The power of two of the last fraction bit of the smallest numbers. -/
def leastExponent (format : BinaryFormat) : Int :=
  2 - Nat.pow 2 (format.exponentBits - 1) - format.fractionBits

/-- The pattern with only the sign bit set. -/
def signBit (format : BinaryFormat) : Nat :=
  Nat.pow 2 (format.fractionBits + format.exponentBits)

/-- The pattern of positive infinity; patterns above it, signs apart, are no numbers. -/
def infinity (format : BinaryFormat) : Nat :=
  format.topField * Nat.pow 2 format.fractionBits

/-- The one pattern in use for "not a number". -/
def quiet (format : BinaryFormat) : Nat :=
  format.infinity + Nat.pow 2 (format.fractionBits - 1)

/-- What a pattern stands for. -/
def read (format : BinaryFormat) (pattern : Nat) : Figure :=
  let negative := pattern / format.signBit % 2 == 1
  let field := pattern / Nat.pow 2 format.fractionBits % Nat.pow 2 format.exponentBits
  let fraction := pattern % Nat.pow 2 format.fractionBits
  if field == format.topField then
    if fraction == 0 then .infinite negative else .notANumber
  else if field == 0 then .finite negative fraction format.leastExponent
  else
    .finite negative (Nat.pow 2 format.fractionBits + fraction)
      (format.leastExponent + (field - 1 : Nat))

/-! ### Rounding a quotient -/

/-- The whole number nearest to a quotient, a tie going to the even one. -/
def nearestEven (numerator denominator : Nat) : Nat :=
  let whole := numerator / denominator
  let twice := 2 * (numerator % denominator)
  if twice < denominator then whole
  else if denominator < twice then whole + 1
  else whole + whole % 2

/-- The exponent of the greatest power of two that is no greater than a positive quotient. -/
def binaryOrder (numerator denominator : Nat) : Int :=
  let guess : Int := (Nat.log2 numerator : Int) - Nat.log2 denominator
  if 0 ≤ guess then
    if denominator * Nat.pow 2 guess.toNat ≤ numerator then guess else guess - 1
  else
    if denominator ≤ numerator * Nat.pow 2 (-guess).toNat then guess else guess - 1

/-- The pattern without a sign that is nearest to a quotient. -/
def magnitude (format : BinaryFormat) (numerator denominator : Nat) : Nat :=
  if numerator == 0 then 0
  else
    let exponent :=
      max format.leastExponent (binaryOrder numerator denominator - format.fractionBits)
    let significand :=
      if 0 ≤ exponent then nearestEven numerator (denominator * Nat.pow 2 exponent.toNat)
      else nearestEven (numerator * Nat.pow 2 (-exponent).toNat) denominator
    let steps := (exponent - format.leastExponent).toNat
    min format.infinity (steps * Nat.pow 2 format.fractionBits + significand)

/-- A pattern under a sign. -/
def signed (format : BinaryFormat) (negative : Bool) (pattern : Nat) : Nat :=
  if negative then format.signBit + pattern else pattern

/-- The pattern nearest to what a pattern of any format stands for. -/
def write (format : BinaryFormat) : Figure → Nat
  | .notANumber => format.quiet
  | .infinite negative => format.signed negative format.infinity
  | .finite negative significand exponent =>
    format.signed negative <|
      if 0 ≤ exponent then format.magnitude (significand * Nat.pow 2 exponent.toNat) 1
      else format.magnitude significand (Nat.pow 2 (-exponent).toNat)

/-- The pattern nearest to a whole number. -/
def ofInt (format : BinaryFormat) (value : Int) : Nat :=
  format.signed (value < 0) (format.magnitude value.natAbs 1)

/-- Whether a pattern stands for zero, of either sign. -/
def isZero (format : BinaryFormat) (pattern : Nat) : Bool :=
  pattern % format.signBit == 0

end BinaryFormat

end RecordMapper.Number
