/-!
Three-valued logic: a predicate over nulls may have no definite truth value.
-/

namespace JoinEngine

inductive Ternary where
  | true
  | false
  | unknown
  deriving DecidableEq

namespace Ternary

def ofBool (b : Bool) : Ternary := if b then .true else .false

/-- Only a definite truth passes a condition. -/
def isTrue : Ternary → Bool
  | .true => Bool.true
  | _ => Bool.false

def isUnknown : Ternary → Bool
  | .unknown => Bool.true
  | _ => Bool.false

def and : Ternary → Ternary → Ternary
  | .false, _ => .false
  | _, .false => .false
  | .true, .true => .true
  | _, _ => .unknown

def or : Ternary → Ternary → Ternary
  | .true, _ => .true
  | _, .true => .true
  | .false, .false => .false
  | _, _ => .unknown

def not : Ternary → Ternary
  | .true => .false
  | .false => .true
  | .unknown => .unknown

def display : Ternary → String
  | .true => "TRUE"
  | .false => "FALSE"
  | .unknown => "UNKNOWN"

end Ternary

end JoinEngine
