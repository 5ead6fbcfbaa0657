import JoinEngine.Error
import JoinEngine.Value

/-!
SQL arithmetic. Two integers give an integer of the wider width, computed exactly and refused
when it does not fit; any other two numbers give a double. Null in, null out.
-/

namespace JoinEngine

inductive ArithmeticOp where
  | add
  | sub
  | mul
  | div
  | mod
  deriving DecidableEq

namespace ArithmeticOp

def symbol : ArithmeticOp → String
  | add => "+"
  | sub => "-"
  | mul => "*"
  | div => "/"
  | mod => "%"

def name : ArithmeticOp → String
  | add => "Add"
  | sub => "Sub"
  | mul => "Mul"
  | div => "Div"
  | mod => "Mod"

def names : List (String × ArithmeticOp) :=
  [("Add", add), ("Sub", sub), ("Mul", mul), ("Div", div), ("Mod", mod)]

def divides : ArithmeticOp → Bool
  | div => true
  | mod => true
  | _ => false

/-- The integer result on integers from `low` to `high`; a quotient is truncated toward zero.
A remainder is refused where the quotient does not fit. -/
def onIntegers (op : ArithmeticOp) (low high x y : Int) : Option Int :=
  let fitting (n : Int) : Option Int := if low ≤ n ∧ n ≤ high then some n else none
  match op with
  | add => fitting (x + y)
  | sub => fitting (x - y)
  | mul => fitting (x * y)
  | div => if y = 0 then none else fitting (x.tdiv y)
  | mod => if y = 0 then none else (fitting (x.tdiv y)).map fun _ => x.tmod y

def onDoubles (op : ArithmeticOp) (x y : Double) : Double :=
  match op with
  | add => x.add y
  | sub => x.sub y
  | mul => x.mul y
  | div => x.div y
  | mod => x.rem y

def integerFault (op : ArithmeticOp) : EvalFault :=
  if op.divides then .divisionByZeroOrOverflow else .integerOverflow

end ArithmeticOp

namespace Value

def arithmetic (op : ArithmeticOp) (a b : Value) : Except JoinError Value :=
  match a, b with
  | null, _ => .ok null
  | _, null => .ok null
  | int32 x, int32 y =>
    match op.onIntegers Int32.minValue.toInt Int32.maxValue.toInt x.toInt y.toInt with
    | some n => .ok (int32 (Int32.ofInt n))
    | none => .error (.evaluation op.integerFault)
  | a, b =>
    match a.int?, b.int? with
    | some x, some y =>
      match op.onIntegers Int64.minValue.toInt Int64.maxValue.toInt x.toInt y.toInt with
      | some n => .ok (int64 (Int64.ofInt n))
      | none => .error (.evaluation op.integerFault)
    | _, _ =>
      match a.double?, b.double? with
      | some x, some y =>
        if op.divides && y.isZero then .error (.evaluation .divisionByZero)
        else .ok (float64 (op.onDoubles x y))
      | _, _ => .error (.evaluation (.notNumeric op.symbol a.typeName b.typeName))

/-- Text of one value after the other; null if either is null. -/
def concat (a b : Value) : Value :=
  if a.isNull || b.isNull then null else string (a.text ++ b.text)

end Value

end JoinEngine
