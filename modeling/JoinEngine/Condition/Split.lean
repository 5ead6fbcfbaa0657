import JoinEngine.Condition.Descriptor
import JoinEngine.Relation.Reference

/-!
Splitting a join condition. The condition is read as a conjunction of any nesting; a conjunct
that equates a left column with a right column becomes a key pair, and all others stay in the
residual in their order. A condition that is not a conjunction is a single conjunct.
-/

namespace JoinEngine

namespace Expr

mutual

/-- The conjuncts of a condition, nested conjunctions being flattened. -/
def conjuncts : Expr → List Expr
  | .and operands => conjunctsOf operands
  | e => [e]

def conjunctsOf : List Expr → List Expr
  | [] => []
  | e :: rest => e.conjuncts ++ conjunctsOf rest

end

/-- The left and right columns that a conjunct equates, each counted in its own row. -/
def keyPair? (leftArity width : Nat) : Expr → Option (Nat × Nat)
  | .compare .eq (.column a) (.column b) =>
    if a < leftArity ∧ leftArity ≤ b ∧ b < width then some (a, b - leftArity)
    else if b < leftArity ∧ leftArity ≤ a ∧ a < width then some (b, a - leftArity)
    else none
  | _ => none

end Expr

namespace JoinDescriptor

def residualOf (rest : List Expr) : Option Expr :=
  if rest.isEmpty then none else some (Expr.conjunction rest)

/-- Split a condition over the joined row of a left and a right row. -/
def classify (condition : Expr) (leftArity rightArity : Nat) :
    Except JoinError JoinDescriptor :=
  let width := leftArity + rightArity
  match condition.columns.find? (width ≤ ·) with
  | some column => .error (.condition (.outsideJoinedRow column width))
  | none =>
    let conjuncts := condition.conjuncts
    let pairs := conjuncts.filterMap (Expr.keyPair? leftArity width)
    let rest := conjuncts.filter fun e => (e.keyPair? leftArity width).isNone
    .ok {
      leftKeys := pairs.map (·.1)
      rightKeys := pairs.map (·.2)
      residual := residualOf rest
      condition
      leftArity
      rightArity }

def classifyJoin (right : RelationRef) (condition : Expr) (leftArity : Nat) :
    Except JoinError JoinDescriptor :=
  match right with
  | .subquery _ => .error .subqueryOnRight
  | .table t => classify condition leftArity t.arity

def pairOutside? (leftArity rightArity : Nat) (pairs : List (Nat × Nat)) :
    Option (Nat × Nat) :=
  pairs.find? fun (l, r) => leftArity ≤ l || rightArity ≤ r

def usingCondition (leftArity : Nat) (pairs : List (Nat × Nat)) : Expr :=
  Expr.conjunction (pairs.map fun (l, r) => Expr.columnsEqual l (leftArity + r))

/-- A join on equal columns, given as pairs of a left and a right column. -/
def ofUsing (pairs : List (Nat × Nat)) (leftArity rightArity : Nat) :
    Except JoinError JoinDescriptor :=
  if pairs.isEmpty then .error (.condition .emptyUsing)
  else
    match pairOutside? leftArity rightArity pairs with
    | some (l, r) => .error (.condition (.usingOutside l r leftArity rightArity))
    | none => classify (usingCondition leftArity pairs) leftArity rightArity

end JoinDescriptor

end JoinEngine
