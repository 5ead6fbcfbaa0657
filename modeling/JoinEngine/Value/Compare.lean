import JoinEngine.Error
import JoinEngine.Ternary
import JoinEngine.Value

/-!
SQL comparison. Null compares as unknown with everything. Integers of both widths compare as
integers; a number that is not an integer makes both sides doubles. Values of unrelated types
are unequal and have no order.
-/

namespace JoinEngine

inductive CompareOp where
  | eq
  | notEq
  | lt
  | ltEq
  | gt
  | gtEq
  deriving DecidableEq

namespace CompareOp

def symbol : CompareOp → String
  | eq => "="
  | notEq => "<>"
  | lt => "<"
  | ltEq => "<="
  | gt => ">"
  | gtEq => ">="

def name : CompareOp → String
  | eq => "Eq"
  | notEq => "NotEq"
  | lt => "Lt"
  | ltEq => "LtEq"
  | gt => "Gt"
  | gtEq => "GtEq"

def names : List (String × CompareOp) :=
  [("Eq", eq), ("NotEq", notEq), ("Lt", lt), ("LtEq", ltEq), ("Gt", gt), ("GtEq", gtEq)]

def accepts : CompareOp → Ordering → Bool
  | eq, o => o.isEq
  | notEq, o => o.isNe
  | lt, o => o.isLT
  | ltEq, o => o.isLE
  | gt, o => o.isGT
  | gtEq, o => o.isGE

end CompareOp

def lexCompare : List Nat → List Nat → Ordering
  | [], [] => .eq
  | [], _ :: _ => .lt
  | _ :: _, [] => .gt
  | a :: as, b :: bs => (compare a b).then (lexCompare as bs)

namespace Value

inductive Relation where
  | ordered (o : Ordering)
  /-- Comparable types, but one side is not a number. -/
  | unordered
  /-- Types that are never compared with each other. -/
  | incompatible
  deriving DecidableEq

def relateDoubles (x y : Option Double) : Relation :=
  match x, y with
  | some x, some y =>
    match x.compare? y with
    | some o => .ordered o
    | none => .unordered
  | _, _ => .incompatible

/-- Relate two values that are not null. Strings are ordered by code point, which is the order
of their bytes. -/
def relate (a b : Value) : Relation :=
  match a, b with
  | bool a, bool b => .ordered (compare a.toNat b.toNat)
  | string a, string b =>
    .ordered (lexCompare (a.toList.map Char.toNat) (b.toList.map Char.toNat))
  | bytes a, bytes b => .ordered (lexCompare (a.map UInt8.toNat) (b.map UInt8.toNat))
  | timestamp a, timestamp b => .ordered (compare a.toInt b.toInt)
  | a, b =>
    match a.int?, b.int? with
    | some a, some b => .ordered (compare a.toInt b.toInt)
    | _, _ => relateDoubles a.double? b.double?

/-- SQL equality, unknown when a side is null. -/
def sqlEquals (a b : Value) : Ternary :=
  if a.isNull || b.isNull then .unknown
  else .ofBool (decide (a.relate b = .ordered .eq))

def compareBy (op : CompareOp) (a b : Value) : Except JoinError Ternary :=
  if a.isNull || b.isNull then .ok .unknown
  else
    match a.relate b with
    | .ordered o => .ok (.ofBool (op.accepts o))
    | .unordered => .ok (.ofBool (decide (op = .notEq)))
    | .incompatible =>
      match op with
      | .eq => .ok .false
      | .notEq => .ok .true
      | _ => .error (.typeMismatch a.typeName b.typeName)

end Value

end JoinEngine
