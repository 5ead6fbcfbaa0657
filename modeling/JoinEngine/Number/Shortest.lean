import JoinEngine.Number.Binary

/-!
The shortest decimal that reads back. A decimal reads back as a floating-point number when it
lies in the interval of reals that round to it, whose ends are half way to its neighbours and
belong to it exactly when its bit pattern is even. For one, two, three … digits the two
decimals of that many digits around the number are tried; the first count with a decimal in the
interval wins, and of two the nearer.
-/

namespace JoinEngine

/-- The number `digits * 10 ^ exponent`. -/
structure Decimal where
  digits : Nat
  exponent : Int
  deriving DecidableEq

/-- Where a number half way between two decimals goes. -/
inductive Tie where
  | up
  | even
  deriving DecidableEq

namespace Decimal

/-- The weight of the digit at a place left of the point. -/
def weight (place : Nat) : Nat := Nat.pow 10 place

def stripZeros : Nat → Decimal → Decimal
  | 0, d => d
  | fuel + 1, d =>
    if d.digits ≠ 0 ∧ d.digits % 10 = 0 then stripZeros fuel ⟨d.digits / 10, d.exponent + 1⟩
    else d

/-- Exponent of the leading digit of `num / den`, for a quotient of at least `10 ^ -400`. -/
def leadingExponent (num den : Nat) : Int :=
  ((Nat.toDigits 10 (num * weight 400 / den)).length : Int) - 401

end Decimal

/-- The reals that round to one magnitude, in half units of its format. -/
structure RoundingInterval where
  low : Nat
  high : Nat
  closed : Bool

namespace RoundingInterval

def ofMagnitude (f : BinaryFormat) (magnitude : Nat) : RoundingInterval where
  low := f.units (magnitude - 1) + f.units magnitude
  high := f.units magnitude + f.units (magnitude + 1)
  closed := magnitude % 2 == 0

def contains (i : RoundingInterval) (num den : Nat) : Bool :=
  if i.closed then decide (i.low * den ≤ num) && decide (num ≤ i.high * den)
  else decide (i.low * den < num) && decide (num < i.high * den)

end RoundingInterval

namespace BinaryFormat

/-- The decimal nearest to the magnitude among its two neighbours that are multiples of
`10 ^ exponent` and read back, if one does. -/
def decimalAt? (f : BinaryFormat) (tie : Tie) (magnitude : Nat) (exponent : Int) :
    Option Decimal :=
  let interval := RoundingInterval.ofMagnitude f magnitude
  -- one grid step is `step / scale` units
  let step := Decimal.weight exponent.toNat * f.one
  let scale := Decimal.weight (-exponent).toNat
  let value := f.units magnitude * scale
  let below := value / step
  let above := below + 1
  let rest := value % step
  let belowFits := interval.contains (2 * below * step) scale
  let aboveFits := interval.contains (2 * above * step) scale
  if belowFits && aboveFits then
    if 2 * rest < step then some ⟨below, exponent⟩
    else if step < 2 * rest then some ⟨above, exponent⟩
    else match tie with
      | .up => some ⟨above, exponent⟩
      | .even => some ⟨if below % 2 = 0 then below else above, exponent⟩
  else if belowFits then some ⟨below, exponent⟩
  else if aboveFits then some ⟨above, exponent⟩
  else none

/-- Try ever finer grids, at most `fuel + 1` of them. -/
def shortestFrom (f : BinaryFormat) (tie : Tie) (magnitude : Nat) : Nat → Int → Decimal
  | 0, exponent => (f.decimalAt? tie magnitude exponent).getD ⟨0, 0⟩
  | fuel + 1, exponent =>
    match f.decimalAt? tie magnitude exponent with
    | some d => d
    | none => shortestFrom f tie magnitude fuel (exponent - 1)

/-- The shortest decimal that reads back as a finite magnitude other than zero. Seventeen
digits are enough for the formats here. -/
def shortest (f : BinaryFormat) (tie : Tie) (magnitude : Nat) : Decimal :=
  let top := Decimal.leadingExponent (f.units magnitude) f.one
  (f.shortestFrom tie magnitude 16 top).stripZeros 17

end BinaryFormat

end JoinEngine
