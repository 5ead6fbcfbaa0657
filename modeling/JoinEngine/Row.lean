import JoinEngine.Error
import JoinEngine.Value

/-!
Rows: an ordered list of values, any of which may be null. Joining two rows appends one to the
other.
-/

namespace JoinEngine

abbrev Row := List Value

namespace Row

def arity (row : Row) : Nat := row.length

def column (row : Row) (index : Nat) : Except ShapeError Value :=
  match row[index]? with
  | some v => .ok v
  | none => .error (.column index row.length)

def expectArity (row : Row) (expected : Nat) : Except ShapeError Unit :=
  if row.length = expected then .ok () else .error (.arity expected row.length)

/-- The values at the given columns, or nothing if one is null or missing. -/
def key (row : Row) : List Nat → Option (List Value)
  | [] => some []
  | index :: rest =>
    match row[index]? with
    | some v => if v.isNull then none else (row.key rest).map (v :: ·)
    | none => none

def sameAs : Row → Row → Bool
  | [], [] => true
  | a :: as, b :: bs => a.sameAs b && sameAs as bs
  | _, _ => false

end Row

end JoinEngine
