import JoinEngine.Codec.Value
import JoinEngine.Condition.Descriptor
import JoinEngine.Exec.Projection
import JoinEngine.Relation.Reference

/-!
JSON forms of expressions, descriptors, projections and references to relations. Reading takes
a descriptor as it was written; only splitting a condition makes one whose parts fit together.
-/

namespace JoinEngine

namespace CompareOp

def toJson (op : CompareOp) : Json := .string op.name

def ofJson? (levels : Nat) (j : Json) : Option CompareOp := do
  names.lookup (← j.bareChoice? levels)

end CompareOp

namespace ArithmeticOp

def toJson (op : ArithmeticOp) : Json := .string op.name

def ofJson? (levels : Nat) (j : Json) : Option ArithmeticOp := do
  names.lookup (← j.bareChoice? levels)

end ArithmeticOp

namespace Expr

mutual

def toJson : Expr → Json
  | .column index => .single "Column" (.nat index)
  | .literal value => .single "Literal" value.toJson
  | .compare op left right =>
    .single "Compare"
      (.object [("op", op.toJson), ("left", left.toJson), ("right", right.toJson)])
  | .and operands => .single "And" (.array (allToJson operands))
  | .or operands => .single "Or" (.array (allToJson operands))
  | .not operand => .single "Not" operand.toJson
  | .isNull operand => .single "IsNull" operand.toJson
  | .isNotNull operand => .single "IsNotNull" operand.toJson
  | .arithmetic op left right =>
    .single "Arithmetic"
      (.object [("op", op.toJson), ("left", left.toJson), ("right", right.toJson)])
  | .concat left right => .single "Concat" (.array [left.toJson, right.toJson])

def allToJson : List Expr → List Json
  | [] => []
  | e :: rest => e.toJson :: allToJson rest

end

/-- Read the expression in an object; what the object's member holds may nest one level less,
and what is inside of that another. -/
def ofJson? : Nat → Json → Option Expr
  | inner + 1, .object [(name, payload)] =>
    if name = "Column" then payload.nat?.map .column
    else if name = "Literal" then (Value.ofJson? inner payload).map .literal
    else if name = "Not" then (ofJson? inner payload).map .not
    else if name = "IsNull" then (ofJson? inner payload).map .isNull
    else if name = "IsNotNull" then (ofJson? inner payload).map .isNotNull
    else
      match inner with
      | 0 => none
      | core + 1 =>
        if name = "And" then (payload.list? inner (ofJson? core)).map .and
        else if name = "Or" then (payload.list? inner (ofJson? core)).map .or
        else if name = "Concat" then
          match payload with
          | .array [left, right] => do
            let left ← ofJson? core left
            let right ← ofJson? core right
            return .concat left right
          | _ => none
        else if name = "Compare" then do
          let fields ← payload.fields? false ["op", "left", "right"] inner
          let op ← fields.required "op" (CompareOp.ofJson? core)
          let left ← fields.required "left" (ofJson? core)
          let right ← fields.required "right" (ofJson? core)
          return .compare op left right
        else if name = "Arithmetic" then do
          let fields ← payload.fields? false ["op", "left", "right"] inner
          let op ← fields.required "op" (ArithmeticOp.ofJson? core)
          let left ← fields.required "left" (ofJson? core)
          let right ← fields.required "right" (ofJson? core)
          return .arithmetic op left right
        else none
  | _, _ => none

def optionToJson : Option Expr → Json
  | some e => e.toJson
  | none => .null

end Expr

namespace JoinDescriptor

def toJson (d : JoinDescriptor) : Json :=
  .object [
    ("left_equi_indices", .array (d.leftKeys.map Json.nat)),
    ("right_equi_indices", .array (d.rightKeys.map Json.nat)),
    ("non_equi_condition", Expr.optionToJson d.residual),
    ("condition", d.condition.toJson),
    ("left_arity", .nat d.leftArity),
    ("right_arity", .nat d.rightArity)]

def fieldNames : List String :=
  ["left_equi_indices", "right_equi_indices", "non_equi_condition", "condition", "left_arity",
    "right_arity"]

def ofJson? (levels : Nat) (j : Json) : Option JoinDescriptor := do
  let fields ← j.fields? false fieldNames levels
  let inner := levels - 1
  let leftKeys ← fields.required "left_equi_indices" (Json.list? inner Json.nat?)
  let rightKeys ← fields.required "right_equi_indices" (Json.list? inner Json.nat?)
  let residual ← fields.nullable "non_equi_condition" (Expr.ofJson? inner)
  let condition ← fields.required "condition" (Expr.ofJson? inner)
  let leftArity ← fields.required "left_arity" Json.nat?
  let rightArity ← fields.required "right_arity" Json.nat?
  return { leftKeys, rightKeys, residual, condition, leftArity, rightArity }

end JoinDescriptor

namespace Projection

def toJson (p : Projection) : Json :=
  .object [("filter", Expr.optionToJson p.filter), ("exprs", .array (Expr.allToJson p.exprs))]

def ofJson? (levels : Nat) (j : Json) : Option Projection := do
  let fields ← j.fields? false ["filter", "exprs"] levels
  let inner := levels - 1
  let filter ← fields.withDefault "filter" none (Json.nullable? (Expr.ofJson? inner))
  let exprs ← fields.withDefault "exprs" [] (Json.list? inner (Expr.ofJson? (inner - 1)))
  return { filter, exprs }

end Projection

namespace RelationKind

def toJson (k : RelationKind) : Json := .string k.display

def ofJson? (levels : Nat) (j : Json) : Option RelationKind := do
  names.lookup (← j.bareChoice? levels)

end RelationKind

namespace TableRef

def toJson (t : TableRef) : Json :=
  .object [("name", .string t.name), ("arity", .nat t.arity), ("unbounded", .bool t.unbounded)]

def ofJson? (levels : Nat) (j : Json) : Option TableRef := do
  let fields ← j.fields? false ["name", "arity", "unbounded"] levels
  let name ← fields.required "name" Json.string?
  let arity ← fields.required "arity" Json.nat?
  let unbounded ← fields.withDefault "unbounded" false Json.bool?
  return { name, arity, unbounded }

end TableRef

namespace DerivedTable

def toJson (d : DerivedTable) : Json :=
  .object [("alias", .string d.name), ("arity", .nat d.arity)]

def ofJson? (levels : Nat) (j : Json) : Option DerivedTable := do
  let fields ← j.fields? false ["alias", "arity"] levels
  let name ← fields.required "alias" Json.string?
  let arity ← fields.required "arity" Json.nat?
  return { name, arity }

end DerivedTable

namespace RelationRef

def toJson : RelationRef → Json
  | .table t => .single "table" t.toJson
  | .subquery d => .single "subquery" d.toJson

def ofJson? (levels : Nat) (j : Json) : Option RelationRef := do
  match ← j.choice? levels with
  | (name, some payload) =>
    if name = "table" then (TableRef.ofJson? (levels - 1) payload).map .table
    else if name = "subquery" then (DerivedTable.ofJson? (levels - 1) payload).map .subquery
    else none
  | _ => none

end RelationRef

end JoinEngine
