import JoinEngine.Value.Arithmetic
import JoinEngine.Value.Compare

/-!
Expressions over a row. A column is referred to by its position; `columns` lists the positions
an expression reads and `shiftColumns` moves them all, as when an expression over the right row
of a join is read over the joined row.
-/

namespace JoinEngine

inductive Expr where
  | column (index : Nat)
  | literal (value : Value)
  | compare (op : CompareOp) (left right : Expr)
  | and (operands : List Expr)
  | or (operands : List Expr)
  | not (operand : Expr)
  | isNull (operand : Expr)
  | isNotNull (operand : Expr)
  | arithmetic (op : ArithmeticOp) (left right : Expr)
  | concat (left right : Expr)

namespace Expr

/-- The conjunction of some expressions; a single one stands for itself. -/
def conjunction : List Expr → Expr
  | [e] => e
  | operands => .and operands

def disjunction : List Expr → Expr
  | [e] => e
  | operands => .or operands

def columnsEqual (a b : Nat) : Expr := .compare .eq (.column a) (.column b)

mutual

/-- Column references from left to right, repetitions included. -/
def references : Expr → List Nat
  | .column index => [index]
  | .literal _ => []
  | .compare _ left right => left.references ++ right.references
  | .and operands => referencesOf operands
  | .or operands => referencesOf operands
  | .not operand => operand.references
  | .isNull operand => operand.references
  | .isNotNull operand => operand.references
  | .arithmetic _ left right => left.references ++ right.references
  | .concat left right => left.references ++ right.references

def referencesOf : List Expr → List Nat
  | [] => []
  | e :: rest => e.references ++ referencesOf rest

end

def insertAscending (n : Nat) : List Nat → List Nat
  | [] => [n]
  | m :: rest =>
    if n < m then n :: m :: rest
    else if n = m then m :: rest
    else m :: insertAscending n rest

/-- The columns an expression reads, ascending and without repetitions. -/
def columns (e : Expr) : List Nat := e.references.foldr insertAscending []

mutual

def shiftColumns (offset : Nat) : Expr → Expr
  | .column index => .column (index + offset)
  | .literal value => .literal value
  | .compare op left right =>
    .compare op (left.shiftColumns offset) (right.shiftColumns offset)
  | .and operands => .and (shiftAll offset operands)
  | .or operands => .or (shiftAll offset operands)
  | .not operand => .not (operand.shiftColumns offset)
  | .isNull operand => .isNull (operand.shiftColumns offset)
  | .isNotNull operand => .isNotNull (operand.shiftColumns offset)
  | .arithmetic op left right =>
    .arithmetic op (left.shiftColumns offset) (right.shiftColumns offset)
  | .concat left right => .concat (left.shiftColumns offset) (right.shiftColumns offset)

def shiftAll (offset : Nat) : List Expr → List Expr
  | [] => []
  | e :: rest => e.shiftColumns offset :: shiftAll offset rest

end

mutual

/-- The same tree with the same leaves, literals being compared as `Value.sameAs` does. -/
def sameAs : Expr → Expr → Bool
  | .column a, .column b => a == b
  | .literal a, .literal b => a.sameAs b
  | .compare p a b, .compare q c d => decide (p = q) && a.sameAs c && b.sameAs d
  | .and as, .and bs => sameAll as bs
  | .or as, .or bs => sameAll as bs
  | .not a, .not b => a.sameAs b
  | .isNull a, .isNull b => a.sameAs b
  | .isNotNull a, .isNotNull b => a.sameAs b
  | .arithmetic p a b, .arithmetic q c d => decide (p = q) && a.sameAs c && b.sameAs d
  | .concat a b, .concat c d => a.sameAs c && b.sameAs d
  | _, _ => false

def sameAll : List Expr → List Expr → Bool
  | [], [] => true
  | a :: as, b :: bs => a.sameAs b && sameAll as bs
  | _, _ => false

end

end Expr

end JoinEngine
