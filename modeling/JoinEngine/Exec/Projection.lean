import JoinEngine.Exec.Run
import JoinEngine.Expr.Eval
import JoinEngine.Expr.Print

/-!
Filtering and projecting joined rows. Without expressions a row that passes the filter stays as
it is.
-/

namespace JoinEngine

structure Projection where
  filter : Option Expr := none
  exprs : List Expr := []

namespace Projection

def outputArity (p : Projection) (width : Nat) : Nat :=
  if p.exprs.isEmpty then width else p.exprs.length

/-- The columns read: those of the filter, then those of the expressions in order. -/
def columns (p : Projection) : List Nat :=
  (p.filter.toList ++ p.exprs).flatMap Expr.columns

def validate (p : Projection) (width : Nat) : Except JoinError Unit :=
  match p.columns.find? (width ≤ ·) with
  | some column => .error (.plan (.projectionColumn column width))
  | none => .ok ()

/-- The truth of the filter, which counts as an evaluation of the query. -/
def accepts (p : Projection) (row : Row) : Run Session Bool := do
  match p.filter with
  | none => return true
  | some predicate =>
    modify Session.countEvaluation
    let t ← predicate.holds row
    return t.isTrue

def project (p : Projection) (row : Row) : Except JoinError Row :=
  if p.exprs.isEmpty then .ok row else p.exprs.mapM fun e => e.evaluate row

def apply (p : Projection) (row : Row) : Run Session (Option Row) := do
  if ← p.accepts row then
    let projected ← p.project row
    return some projected
  else return none

/-- Filter and project rows, up to the first that fails. -/
def applyAll (p : Projection) : List Row → Run Session (List Row)
  | [] => return []
  | row :: rest => do
    let projected ← p.apply row
    let others ← p.applyAll rest
    return projected.toList ++ others

def dump (p : Projection) : String :=
  let filter := match p.filter with
    | some e => "Some(" ++ e.dump ++ ")"
    | none => "None"
  "Projection \x7b filter: " ++ filter ++ ", exprs: ["
    ++ String.intercalate ", " (p.exprs.map Expr.dump) ++ "] \x7d"

end Projection

end JoinEngine
