/-
This file says how a class of characters is written down: as stretches, each a first and a
last code point and the distance between neighbours. A distance of two covers the many blocks
in which upper and lower case alternate. The class is the union of its stretches.
-/

namespace RecordMapper.Text

/-- A first code point, a last one, and the distance between members. -/
abbrev Stretch := Nat × Nat × Nat

/-- Whether a code point lies on a stretch. -/
def Stretch.covers (stretch : Stretch) (code : Nat) : Bool :=
  stretch.1 ≤ code && code ≤ stretch.2.1 && (code - stretch.1) % stretch.2.2 == 0

/-- Whether a character belongs to the class that the stretches list. -/
def isListed (stretches : List Stretch) (character : Char) : Bool :=
  stretches.any fun stretch => stretch.covers character.toNat

end RecordMapper.Text
