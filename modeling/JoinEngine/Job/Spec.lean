import JoinEngine.Codec.Expr
import JoinEngine.Job.Error

/-!
Jobs described in JSON: a driving source, the relations it is joined with, the joins in order,
and what becomes of the joined rows. Descriptions of jobs have no room for unknown fields.
-/

namespace JoinEngine

structure SourceSpec where
  name : String
  arity : Nat
  rows : List (List Json)
  unbounded : Bool

structure RelationSpec where
  name : String
  kind : RelationKind
  arity : Nat
  /-- The key of a store; not used by other kinds. -/
  keyColumns : List Nat
  partitions : Nat
  rows : List (List Json)

structure JoinSpec where
  relation : String
  condition : Option Expr
  /-- Pairs of a left and a right column that must be equal. -/
  usingColumns : List (Nat × Nat)

structure JobSpec where
  source : SourceSpec
  relations : List RelationSpec
  joins : List JoinSpec
  projection : Option Projection
  /-- Names of the output columns; made up if there are none. -/
  columns : List String
  /-- Where the rows are written to; they are returned if it is absent. -/
  sink : Option String

/-- Any document, with the last of repeated names. -/
def Json.document? (levels : Nat) (j : Json) : Option Json :=
  if j.fits levels then some j.canonical else none

def Json.rows? (levels : Nat) (j : Json) : Option (List (List Json)) :=
  j.list? levels (Json.list? (levels - 1) (Json.document? (levels - 2)))

def Json.pair? (levels : Nat) (j : Json) : Option (Nat × Nat) := do
  match ← j.items? levels with
  | [a, b] => return (← a.nat?, ← b.nat?)
  | _ => none

namespace SourceSpec

def ofJson? (levels : Nat) (j : Json) : Option SourceSpec := do
  let fields ← j.fields? true ["name", "arity", "rows", "unbounded"] levels
  let name ← fields.required "name" Json.string?
  let arity ← fields.required "arity" Json.nat?
  let rows ← fields.withDefault "rows" [] (Json.rows? (levels - 1))
  let unbounded ← fields.withDefault "unbounded" false Json.bool?
  return { name, arity, rows, unbounded }

end SourceSpec

namespace RelationSpec

def ofJson? (levels : Nat) (j : Json) : Option RelationSpec := do
  let fields ← j.fields? true ["name", "kind", "arity", "key_columns", "partitions", "rows"] levels
  let inner := levels - 1
  let name ← fields.required "name" Json.string?
  let kind ← fields.required "kind" (RelationKind.ofJson? inner)
  let arity ← fields.required "arity" Json.nat?
  let keyColumns ← fields.withDefault "key_columns" [] (Json.list? inner Json.nat?)
  let partitions ← fields.withDefault "partitions" 1 Json.nat?
  let rows ← fields.withDefault "rows" [] (Json.rows? inner)
  return { name, kind, arity, keyColumns, partitions, rows }

end RelationSpec

namespace JoinSpec

def ofJson? (levels : Nat) (j : Json) : Option JoinSpec := do
  let fields ← j.fields? true ["relation", "on", "using"] levels
  let inner := levels - 1
  let relation ← fields.required "relation" Json.string?
  let condition ← fields.withDefault "on" none (Json.nullable? (Expr.ofJson? inner))
  let usingColumns ← fields.withDefault "using" [] (Json.list? inner (Json.pair? (inner - 1)))
  return { relation, condition, usingColumns }

end JoinSpec

namespace JobSpec

def ofJson? (levels : Nat) (j : Json) : Option JobSpec := do
  let fields ← j.fields? true
    ["source", "relations", "joins", "projection", "columns", "sink"] levels
  let inner := levels - 1
  let source ← fields.required "source" (SourceSpec.ofJson? inner)
  let relations ← fields.withDefault "relations" []
    (Json.list? inner (RelationSpec.ofJson? (inner - 1)))
  let joins ← fields.withDefault "joins" [] (Json.list? inner (JoinSpec.ofJson? (inner - 1)))
  let projection ← fields.withDefault "projection" none
    (Json.nullable? (Projection.ofJson? inner))
  let columns ← fields.withDefault "columns" [] (Json.list? inner Json.string?)
  let sink ← fields.withDefault "sink" none (Json.nullable? Json.string?)
  return { source, relations, joins, projection, columns, sink }

def parse (text : String) : Except JobError JobSpec :=
  match Json.decode? ofJson? text with
  | some job => .ok job
  | none => .error .malformed

end JobSpec

end JoinEngine
