import JoinEngine.Number.Binary

/-!
Single and double precision numbers as their bits, with the comparison, conversions and
arithmetic of the standard: every operation is exact and then rounded once. Two numbers are
ordered by the rank of their bits, in which both zeros have rank zero; a pattern that is not a
number has no order with anything.
-/

namespace JoinEngine

structure Single where
  bits : UInt32
  deriving DecidableEq

structure Double where
  bits : UInt64
  deriving DecidableEq

namespace Single

def magnitude (x : Single) : Nat := x.bits.toNat % BinaryFormat.single.signWeight

def isNegative (x : Single) : Bool := decide (BinaryFormat.single.signWeight ≤ x.bits.toNat)

def isNaN (x : Single) : Bool := decide (BinaryFormat.single.infinity < x.magnitude)

def isFinite (x : Single) : Bool := decide (x.magnitude < BinaryFormat.single.infinity)

def ofParts (negative : Bool) (magnitude : Nat) : Single :=
  ⟨UInt32.ofNat ((if negative then BinaryFormat.single.signWeight else 0) + magnitude)⟩

def ofInt (n : Int) : Single :=
  ofParts (decide (n < 0))
    (BinaryFormat.single.round (n.natAbs * BinaryFormat.single.one) 1)

end Single

namespace Double

def magnitude (x : Double) : Nat := x.bits.toNat % BinaryFormat.double.signWeight

def isNegative (x : Double) : Bool := decide (BinaryFormat.double.signWeight ≤ x.bits.toNat)

def isNaN (x : Double) : Bool := decide (BinaryFormat.double.infinity < x.magnitude)

def isInfinite (x : Double) : Bool := x.magnitude == BinaryFormat.double.infinity

def isFinite (x : Double) : Bool := decide (x.magnitude < BinaryFormat.double.infinity)

def isZero (x : Double) : Bool := x.magnitude == 0

def ofParts (negative : Bool) (magnitude : Nat) : Double :=
  ⟨UInt64.ofNat ((if negative then BinaryFormat.double.signWeight else 0) + magnitude)⟩

/-- The quiet pattern that every invalid operation gives. -/
def nan : Double := ⟨0x7ff8000000000000⟩

def zero (negative : Bool) : Double := ofParts negative 0

def infinity (negative : Bool) : Double := ofParts negative BinaryFormat.double.infinity

def units (x : Double) : Nat := BinaryFormat.double.units x.magnitude

def signedUnits (x : Double) : Int := if x.isNegative then -(x.units : Int) else x.units

def one : Nat := BinaryFormat.double.one

def ofUnits (negative : Bool) (num den : Nat) : Double :=
  ofParts negative (BinaryFormat.double.round num den)

def ofInt (n : Int) : Double := ofUnits (decide (n < 0)) (n.natAbs * one) 1

def ofSingle (x : Single) : Double :=
  if x.isNaN then nan
  else if x.isFinite then
    ofUnits x.isNegative (BinaryFormat.single.units x.magnitude * one)
      BinaryFormat.single.one
  else infinity x.isNegative

def toSingle (x : Double) : Single :=
  if x.isNaN then ⟨0x7fc00000⟩
  else if x.isFinite then
    Single.ofParts x.isNegative
      (BinaryFormat.single.round (x.units * BinaryFormat.single.one) one)
  else Single.ofParts x.isNegative BinaryFormat.single.infinity

/-- Position of the bits in the order of the numbers they stand for. -/
def rank (x : Double) : Int := if x.isNegative then -(x.magnitude : Int) else x.magnitude

/-- How two numbers are ordered; `none` when one of them is not a number. -/
def compare? (x y : Double) : Option Ordering :=
  if x.isNaN || y.isNaN then none else some (compare x.rank y.rank)

def neg (x : Double) : Double := ofParts (!x.isNegative) x.magnitude

def add (x y : Double) : Double :=
  if x.isNaN || y.isNaN then nan
  else if x.isInfinite then
    if y.isInfinite && x.isNegative != y.isNegative then nan else x
  else if y.isInfinite then y
  else
    let sum := x.signedUnits + y.signedUnits
    if sum = 0 then zero (x.isNegative && y.isNegative)
    else ofUnits (decide (sum < 0)) sum.natAbs 1

def sub (x y : Double) : Double := x.add y.neg

def mul (x y : Double) : Double :=
  let negative := x.isNegative != y.isNegative
  if x.isNaN || y.isNaN then nan
  else if x.isInfinite || y.isInfinite then
    if x.isZero || y.isZero then nan else infinity negative
  else ofUnits negative (x.units * y.units) one

def div (x y : Double) : Double :=
  let negative := x.isNegative != y.isNegative
  if x.isNaN || y.isNaN then nan
  else if x.isInfinite then
    if y.isInfinite then nan else infinity negative
  else if y.isInfinite then zero negative
  else if y.isZero then
    if x.isZero then nan else infinity negative
  else ofUnits negative (x.units * one) y.units

/-- Remainder of the division truncated toward zero; it has the sign of the dividend. -/
def rem (x y : Double) : Double :=
  if x.isNaN || y.isNaN || x.isInfinite || y.isZero then nan
  else if y.isInfinite then x
  else ofUnits x.isNegative (x.units % y.units) 1

end Double

end JoinEngine
