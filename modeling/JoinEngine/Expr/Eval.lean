import JoinEngine.Expr
import JoinEngine.Row

/-!
Evaluation of expressions. Every expression has a value on a row; a predicate's value is a
boolean, or null where its truth is unknown. Predicates and operands are evaluated by one
recursion: the truth of a predicate is its value read back by `truth`. A conjunction stops at the
first false operand and a disjunction at the first true one, so what fails behind that does no
harm.
-/

namespace JoinEngine

namespace Ternary

def toValue : Ternary → Value
  | .true => .bool Bool.true
  | .false => .bool Bool.false
  | .unknown => .null

end Ternary

namespace Value

def truth : Value → Except JoinError Ternary
  | null => .ok .unknown
  | bool b => .ok (.ofBool b)
  | v => .error (.evaluation (.notBoolean v.typeName))

end Value

namespace Expr

mutual

def evaluate (row : Row) : Expr → Except JoinError Value
  | .column index =>
    match row[index]? with
    | some v => .ok v
    | none => .error (.evaluation (.noColumn index row.length))
  | .literal value => .ok value
  | .compare op left right => do
    let a ← left.evaluate row
    let b ← right.evaluate row
    let t ← a.compareBy op b
    return t.toValue
  | .and operands => do
    let t ← allTrue row operands
    return t.toValue
  | .or operands => do
    let t ← anyTrue row operands
    return t.toValue
  | .not operand => do
    let v ← operand.evaluate row
    let t ← v.truth
    return t.not.toValue
  | .isNull operand => do
    let v ← operand.evaluate row
    return .bool v.isNull
  | .isNotNull operand => do
    let v ← operand.evaluate row
    return .bool (!v.isNull)
  | .arithmetic op left right => do
    let a ← left.evaluate row
    let b ← right.evaluate row
    a.arithmetic op b
  | .concat left right => do
    let a ← left.evaluate row
    let b ← right.evaluate row
    return a.concat b

/-- The conjunction of operands, up to the first false one. -/
def allTrue (row : Row) : List Expr → Except JoinError Ternary
  | [] => .ok .true
  | e :: rest => do
    let v ← e.evaluate row
    match ← v.truth with
    | .false => return .false
    | t => return t.and (← allTrue row rest)

/-- The disjunction of operands, up to the first true one. -/
def anyTrue (row : Row) : List Expr → Except JoinError Ternary
  | [] => .ok .false
  | e :: rest => do
    let v ← e.evaluate row
    match ← v.truth with
    | .true => return .true
    | t => return t.or (← anyTrue row rest)

end

def holds (row : Row) (e : Expr) : Except JoinError Ternary := do
  let v ← e.evaluate row
  v.truth

end Expr

end JoinEngine
