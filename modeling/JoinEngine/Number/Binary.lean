/-!
Binary floating-point formats, bit for bit. A finite magnitude is a whole number of *units*,
the unit being the least positive value of its format, so sums, products and quotients are
exact integer arithmetic followed by one rounding to the nearest representable magnitude.
The bit pattern without its sign grows with the magnitude, which is all a comparison needs.
-/

namespace JoinEngine

/-- Quotient rounded to the nearest whole number, a half going to the even neighbour. -/
def divHalfEven (num den : Nat) : Nat :=
  let q := num / den
  let r := num % den
  if 2 * r < den then q
  else if den < 2 * r then q + 1
  else if q % 2 = 0 then q else q + 1

/-- A binary interchange format: stored fraction bits and width of the exponent field. -/
structure BinaryFormat where
  fractionBits : Nat
  exponentBits : Nat
  deriving DecidableEq

namespace BinaryFormat

def single : BinaryFormat := ⟨23, 8⟩

def double : BinaryFormat := ⟨52, 11⟩

/-- There are `2 ^ unitExponent` units in the number one. -/
def unitExponent (f : BinaryFormat) : Nat := (1 <<< (f.exponentBits - 1)) - 2 + f.fractionBits

/-- The weight of the sign bit; bit patterns below it are magnitudes. -/
def signWeight (f : BinaryFormat) : Nat := 1 <<< (f.exponentBits + f.fractionBits)

/-- The pattern of infinity. Larger patterns below the sign are not numbers. -/
def infinity (f : BinaryFormat) : Nat := ((1 <<< f.exponentBits) - 1) <<< f.fractionBits

/-- The number of units in one. -/
def one (f : BinaryFormat) : Nat := 1 <<< f.unitExponent

def units (f : BinaryFormat) (magnitude : Nat) : Nat :=
  let exponent := magnitude >>> f.fractionBits
  let fraction := magnitude % (1 <<< f.fractionBits)
  if exponent = 0 then fraction
  else ((1 <<< f.fractionBits) + fraction) <<< (exponent - 1)

/-- The magnitude nearest to `num / den` units, a tie going to the even pattern. What is too
large for the format becomes infinity. -/
def round (f : BinaryFormat) (num den : Nat) : Nat :=
  let shift := (num / den).log2 - f.fractionBits
  min ((shift <<< f.fractionBits) + divHalfEven num (den <<< shift)) f.infinity

end BinaryFormat

end JoinEngine
