/-
This file carries floating-point numbers to decimal text and back. Written out, a number has
the fewest digits that still round to it; of several such it takes the one nearest to the
number, and of two equally near the greater. No exponent is ever written: zeros fill the
places up to the point. Read back, a text is a sign, digits around an optional point and an
optional exponent, or the name of an infinity or of "not a number", and it stands for the
pattern nearest to its exact value.
-/

import RecordMapper.Number.Binary
import RecordMapper.Text.Numeral

namespace RecordMapper.Number

open RecordMapper.Text

/-! ### The fewest digits -/

/-- The count of decimal places by which the first digit of a positive quotient stands left of
the point, less one: the quotient is at least ten to this power and below ten times that. -/
def decimalOrder (numerator denominator : Nat) : Int :=
  let whole := numerator / denominator
  if 0 < whole then ((Nat.toDigits 10 whole).length : Int) - 1
  else
    let inverse := (denominator + numerator - 1) / numerator
    if inverse ≤ 1 then 0 else -((Nat.toDigits 10 (inverse - 1)).length : Int)

/-- A decimal `digits · 10 ^ places` and how it is reached from a quotient: a scale under which
both are whole numbers over one denominator. -/
structure Grid where
  /-- The power of ten of the last digit. -/
  place : Int
  /-- The quotient in units of the last digit, times the denominator. -/
  value : Nat
  /-- What one unit of the last digit counts. -/
  unit : Nat

/-- The quotient measured on the grid of multiples of a power of ten. -/
def Grid.measure (numerator denominator : Nat) (place : Int) : Grid :=
  if 0 ≤ place then ⟨place, numerator, denominator * Nat.pow 10 place.toNat⟩
  else ⟨place, numerator * Nat.pow 10 (-place).toNat, denominator⟩

/-- A positive number between the ends of the interval that rounds to it, all three as
numerators over one denominator. -/
structure Interval where
  low : Nat
  value : Nat
  high : Nat
  denominator : Nat
  /-- Whether the two ends themselves round to the number. -/
  closed : Bool

/-- The interval of numbers that round to a significand times a power of two. Below a power of
two neighbours are half as far apart as above it, except at the smallest numbers. -/
def Interval.around (format : BinaryFormat) (significand : Nat) (exponent : Int) : Interval :=
  let narrow := significand == Nat.pow 2 format.fractionBits && format.leastExponent < exponent
  let low := if narrow then 4 * significand - 1 else 4 * significand - 2
  let scale : Nat → Nat := fun quarters =>
    if 0 ≤ exponent then quarters * Nat.pow 2 exponent.toNat else quarters
  let denominator := if 0 ≤ exponent then 4 else 4 * Nat.pow 2 (-exponent).toNat
  ⟨scale low, scale (4 * significand), scale (4 * significand + 2), denominator,
    significand % 2 == 0⟩

/-- Whether a multiple of a grid's unit lies in the interval. -/
def Interval.holds (interval : Interval) (place : Int) (digits : Nat) : Bool :=
  let scaled :=
    if 0 ≤ place then digits * Nat.pow 10 place.toNat * interval.denominator
    else digits * interval.denominator
  let low := if 0 ≤ place then interval.low else interval.low * Nat.pow 10 (-place).toNat
  let high := if 0 ≤ place then interval.high else interval.high * Nat.pow 10 (-place).toNat
  if interval.closed then low ≤ scaled && scaled ≤ high else low < scaled && scaled < high

/-- The multiple of a power of ten that is nearest to the number among those in its interval, if
there is one; of two equally near it is the greater. -/
def Interval.onGrid (interval : Interval) (place : Int) : Option Nat :=
  let grid := Grid.measure interval.value interval.denominator place
  let below := grid.value / grid.unit
  let rest := grid.value % grid.unit
  let above := below + 1
  match interval.holds place below, interval.holds place above with
  | true, true => some (if 2 * rest < grid.unit then below else above)
  | true, false => some below
  | false, true => some above
  | false, false => none

/-- The digits and the place of the last one, with ever more digits until some multiple lies in
the interval. -/
def Interval.shortest (interval : Interval) (place : Int) : Nat → Nat × Int
  | 0 => ((Grid.measure interval.value interval.denominator place).value /
      (Grid.measure interval.value interval.denominator place).unit, place)
  | more + 1 =>
    match interval.onGrid place with
    | some digits => (digits, place)
    | none => interval.shortest (place - 1) more

/-! ### Writing -/

/-- Digits with a point, the last one standing at a power of ten. -/
def positional (digits : Nat) (place : Int) : String :=
  if 0 ≤ place then String.ofList (Nat.toDigits 10 digits ++ List.replicate place.toNat '0')
  else
    let places := (-place).toNat
    let written := (paddedText (places + 1) digits).toList
    let whole := written.take (written.length - places)
    let fraction := (written.drop (written.length - places)).reverse.dropWhile (· == '0')
    if fraction.isEmpty then String.ofList whole
    else String.ofList (whole ++ '.' :: fraction.reverse)

/-- The decimal text of a pattern. -/
def decimalText (format : BinaryFormat) (pattern : Nat) : String :=
  match format.read pattern with
  | .notANumber => "NaN"
  | .infinite negative => if negative then "-inf" else "inf"
  | .finite negative significand exponent =>
    let sign := if negative then "-" else ""
    if significand == 0 then sign ++ "0"
    else
      let interval := Interval.around format significand exponent
      let first := decimalOrder interval.value interval.denominator
      let (digits, place) := interval.shortest first 17
      sign ++ positional digits place

/-! ### Reading -/

/-- The pattern nearest to `digits · 10 ^ place`. Beyond some hundreds of places the answer is an
infinity or zero whatever the digits are. -/
def BinaryFormat.ofDecimal (format : BinaryFormat) (digits : Nat) (place : Int) : Nat :=
  let order := ((Nat.toDigits 10 digits).length : Int) + place
  if digits == 0 then 0
  else if 400 < order then format.infinity
  else if order < -400 then 0
  else if 0 ≤ place then format.magnitude (digits * Nat.pow 10 place.toNat) 1
  else format.magnitude digits (Nat.pow 10 (-place).toNat)

/-- The exponent after the digits: nothing, or the letter e and a whole number. -/
def readExponent : List Char → Option Int
  | [] => some 0
  | 'e' :: rest => integer? rest
  | 'E' :: rest => integer? rest
  | _ :: _ => none

/-- The pattern of an unsigned decimal text. -/
def BinaryFormat.readUnsigned (format : BinaryFormat) (text : List Char) : Option Nat :=
  match asciiLower text with
  | ['i', 'n', 'f'] => some format.infinity
  | ['i', 'n', 'f', 'i', 'n', 'i', 't', 'y'] => some format.infinity
  | ['n', 'a', 'n'] => some format.quiet
  | _ =>
    let whole := text.takeWhile Char.isDigit
    let afterWhole := text.dropWhile Char.isDigit
    let (fraction, afterFraction) :=
      match afterWhole with
      | '.' :: rest => (rest.takeWhile Char.isDigit, rest.dropWhile Char.isDigit)
      | _ => ([], afterWhole)
    match readExponent afterFraction, natural? (whole ++ fraction) with
    | some exponent, some digits => some (format.ofDecimal digits (exponent - fraction.length))
    | _, _ => none

/-- The pattern that a decimal text stands for. -/
def BinaryFormat.ofText? (format : BinaryFormat) : List Char → Option Nat
  | '-' :: rest => (format.readUnsigned rest).map (format.signed true)
  | '+' :: rest => format.readUnsigned rest
  | text => format.readUnsigned text

end RecordMapper.Number
