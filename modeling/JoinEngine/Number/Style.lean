import JoinEngine.Number.Double
import JoinEngine.Number.Shortest

/-!
Texts of floating-point numbers. All have the shortest digits that read back at the number's
own precision; a style says which of them are written positionally, how an exponent looks, and
which way a tie between two shortest decimals goes.
-/

namespace JoinEngine

structure FloatStyle where
  /-- The choice between two equally near shortest decimals. -/
  tie : Tie
  /-- Numbers whose leading digit has an exponent from `fst` to `snd` are written positionally;
  all numbers when absent. -/
  positional : Option (Int × Int)
  /-- Whether a whole number in positional form ends in `.0`. -/
  wholeMark : Bool
  /-- Whether a positive exponent has a plus sign. -/
  plusSign : Bool
  /-- The texts of what is not a number and of infinity. -/
  nanText : String
  infinityText : String

namespace FloatStyle

private def zeros (n : Nat) : String := String.ofList (List.replicate n '0')

/-- Digits and zeros around a decimal point, never an exponent. -/
def positionalText (s : FloatStyle) (d : Decimal) : String :=
  let digits := Nat.repr d.digits
  if 0 ≤ d.exponent then
    digits ++ zeros d.exponent.toNat ++ (if s.wholeMark then ".0" else "")
  else
    let places := (-d.exponent).toNat
    let chars := digits.toList
    if places < chars.length then
      String.ofList (chars.take (chars.length - places)) ++ "."
        ++ String.ofList (chars.drop (chars.length - places))
    else "0." ++ zeros (places - chars.length) ++ digits

/-- One digit, a point and the others if there are any, and the exponent of the first. -/
def exponentText (s : FloatStyle) (d : Decimal) (leading : Int) : String :=
  let mantissa := match (Nat.repr d.digits).toList with
    | [] => ""
    | [c] => String.ofList [c]
    | c :: rest => String.ofList (c :: '.' :: rest)
  let sign := if s.plusSign && decide (0 ≤ leading) then "+" else ""
  mantissa ++ "e" ++ sign ++ toString leading

/-- The text of a magnitude, without its sign. -/
def magnitudeText (s : FloatStyle) (f : BinaryFormat) (magnitude : Nat) : String :=
  if f.infinity < magnitude then s.nanText
  else if magnitude = f.infinity then s.infinityText
  else if magnitude = 0 then if s.wholeMark then "0.0" else "0"
  else
    let d := f.shortest s.tie magnitude
    let leading := d.exponent + ((Nat.repr d.digits).length : Int) - 1
    match s.positional with
    | none => s.positionalText d
    | some (least, most) =>
      if least ≤ leading ∧ leading ≤ most then s.positionalText d
      else s.exponentText d leading

def signedText (s : FloatStyle) (f : BinaryFormat) (negative : Bool) (magnitude : Nat) :
    String :=
  (if negative && decide (magnitude ≤ f.infinity) then "-" else "")
    ++ s.magnitudeText f magnitude

def ofSingle (s : FloatStyle) (x : Single) : String :=
  s.signedText .single x.isNegative x.magnitude

def ofDouble (s : FloatStyle) (x : Double) : String :=
  s.signedText .double x.isNegative x.magnitude

/-- As a value prints: positional whatever the size, a half going up, and no point on whole
numbers. -/
def display : FloatStyle := ⟨.up, none, false, false, "NaN", "inf"⟩

/-- As a structure dump prints: numbers from `1e-4` below `1e16` are positional. -/
def dump : FloatStyle := ⟨.up, some (-4, 15), true, false, "NaN", "inf"⟩

/-- As JSON holds a double: positional from `1e-5` below `1e16`. -/
def jsonDouble : FloatStyle := ⟨.even, some (-5, 15), true, true, "null", "null"⟩

/-- As JSON holds a single: positional from `1e-6` below `1e13`. -/
def jsonSingle : FloatStyle := ⟨.even, some (-6, 12), true, true, "null", "null"⟩

end FloatStyle

end JoinEngine
