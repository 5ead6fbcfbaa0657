import JoinEngine.Json.Basic
import JoinEngine.Number.Shortest

/-!
The value of a JSON numeral. An integer that fits 64 bits keeps its value. Any other numeral is
read as the leading digits that fit an unsigned 64-bit word, scaled by a power of ten in double
precision; a result beyond the largest double denotes nothing.
-/

namespace JoinEngine

structure Numeral where
  negative : Bool
  whole : List Nat
  fraction : Option (List Nat)
  exponent : Option Int

namespace Numeral

def maxWord : Nat := UInt64.size - 1

/-- Append digits to a number while it fits a word, and count the digits that are left over. -/
def takeDigits (significand : Nat) : List Nat → Nat × Nat
  | [] => (significand, 0)
  | d :: rest =>
    if significand * 10 + d ≤ maxWord then takeDigits (significand * 10 + d) rest
    else (significand, rest.length + 1)

def powerOfTen (n : Nat) : Double := Double.ofInt (Decimal.weight n)

/-- Multiply by a power of ten, in steps of at most 308; `none` on overflow. -/
def scale : Nat → Double → Int → Option Double
  | 0, x, _ => some x
  | fuel + 1, x, exponent =>
    if exponent.natAbs ≤ 308 then
      if 0 ≤ exponent then
        let scaled := x.mul (powerOfTen exponent.toNat)
        if scaled.isInfinite then none else some scaled
      else some (x.div (powerOfTen exponent.natAbs))
    else if x.isZero then some x
    else if 0 ≤ exponent then none
    else scale fuel (x.div (powerOfTen 308)) (exponent + 308)

def double? (n : Numeral) : Option Double :=
  let (head, dropped) := takeDigits 0 n.whole
  let digits := n.fraction.getD []
  let (significand, left) := takeDigits head digits
  let exponent : Int := dropped - ((digits.length : Int) - left) + n.exponent.getD 0
  (scale 4 (Double.ofInt significand) exponent).map fun x => if n.negative then x.neg else x

/-- The value of a numeral; negative zero is a floating-point number. -/
def value (n : Numeral) : Json :=
  let double := match n.double? with
    | some x => .number (.double x)
    | none => .unreadable
  if n.fraction.isSome || n.exponent.isSome then double
  else
    match takeDigits 0 n.whole with
    | (significand, 0) =>
      if n.negative then
        if 0 < significand ∧ Int64.minValue.toInt ≤ -significand then
          .number (.int (-significand))
        else double
      else .number (.int significand)
    | _ => double

end Numeral

end JoinEngine
