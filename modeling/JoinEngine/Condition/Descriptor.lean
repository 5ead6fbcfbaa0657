import JoinEngine.Expr.Print
import JoinEngine.Row

/-!
A join condition made ready for execution: the column pairs that must be equal, what remains of
the condition beside them, and the condition as a whole. Left columns count from the start of
the left row, right columns from the start of the right row; the expressions read the joined
row.
-/

namespace JoinEngine

structure JoinDescriptor where
  /-- Left columns of the equality pairs. -/
  leftKeys : List Nat
  /-- Right columns of the equality pairs, in the same order. -/
  rightKeys : List Nat
  /-- What the pairs leave of the condition. -/
  residual : Option Expr
  condition : Expr
  leftArity : Nat
  rightArity : Nat

namespace JoinDescriptor

def outputArity (d : JoinDescriptor) : Nat := d.leftArity + d.rightArity

def isEqui (d : JoinDescriptor) : Bool := !d.rightKeys.isEmpty

/-- The key of a left row, or nothing if a component is null. -/
def leftKey (d : JoinDescriptor) (left : Row) : Option (List Value) := left.key d.leftKeys

def rightKey (d : JoinDescriptor) (right : Row) : Option (List Value) := right.key d.rightKeys

private def listDump (indices : List Nat) : String :=
  "[" ++ String.intercalate ", " (indices.map fun i => toString i) ++ "]"

def dump (d : JoinDescriptor) : String :=
  let residual := match d.residual with
    | some e => "Some(" ++ e.dump ++ ")"
    | none => "None"
  "JoinDescriptor \x7b left_equi_indices: " ++ listDump d.leftKeys
    ++ ", right_equi_indices: " ++ listDump d.rightKeys
    ++ ", non_equi_condition: " ++ residual
    ++ ", condition: " ++ d.condition.dump
    ++ ", left_arity: " ++ toString d.leftArity
    ++ ", right_arity: " ++ toString d.rightArity ++ " \x7d"

end JoinDescriptor

end JoinEngine
