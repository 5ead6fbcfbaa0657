import JoinEngine.Json.Decode
import JoinEngine.Json.Writer
import JoinEngine.QueryId
import JoinEngine.Row
import JoinEngine.RowMetadata

/-!
JSON forms of values, rows, metadata and query ids. A value is an object whose one member is
named for its kind; null is its name alone. A floating-point number that is not finite is
written as null and cannot be read again.
-/

namespace JoinEngine

namespace Value

def toJson : Value → Json
  | null => .string "Null"
  | bool b => .single "Bool" (.bool b)
  | int32 n => .single "Int32" (.int n.toInt)
  | int64 n => .single "Int64" (.int n.toInt)
  | float32 x => .single "Float32" (.number (.single x))
  | float64 x => .single "Float64" (.number (.double x))
  | string s => .single "String" (.string s)
  | bytes b => .single "Bytes" (.array (b.map fun byte => .nat byte.toNat))
  | timestamp t => .single "Timestamp" (.int t.toInt)

def int64OfJson? (j : Json) : Option Int64 := do
  let n ← j.intBetween? Int64.minValue.toInt Int64.maxValue.toInt
  return Int64.ofInt n

def int32OfJson? (j : Json) : Option Int32 := do
  let n ← j.intBetween? Int32.minValue.toInt Int32.maxValue.toInt
  return Int32.ofInt n

def byteOfJson? (j : Json) : Option UInt8 := do
  let n ← j.intBetween? 0 255
  return UInt8.ofNat n.toNat

/-- A double precision number, or an integer rounded to one. -/
def doubleOfJson? : Json → Option Double
  | .number (.int n) => some (Double.ofInt n)
  | .number (.double x) => some x
  | .number (.single x) => some (Double.ofSingle x)
  | _ => none

/-- A single precision number, or another number rounded to one. -/
def singleOfJson? : Json → Option Single
  | .number (.int n) => some (Single.ofInt n)
  | .number (.double x) => some x.toSingle
  | .number (.single x) => some x
  | _ => none

def ofJson? (levels : Nat) (j : Json) : Option Value := do
  let (name, payload) ← j.choice? levels
  match payload with
  | none => if name = "Null" then some null else none
  | some j =>
    if name = "Null" then
      match j with
      | .null => some null
      | _ => none
    else if name = "Bool" then j.bool?.map bool
    else if name = "Int32" then (int32OfJson? j).map int32
    else if name = "Int64" then (int64OfJson? j).map int64
    else if name = "Float32" then (singleOfJson? j).map float32
    else if name = "Float64" then (doubleOfJson? j).map float64
    else if name = "String" then j.string?.map string
    else if name = "Bytes" then (j.list? (levels - 1) byteOfJson?).map bytes
    else if name = "Timestamp" then (int64OfJson? j).map timestamp
    else none

end Value

namespace Row

def toJson (row : Row) : Json := .single "values" (.array (row.map Value.toJson))

def ofJson? (levels : Nat) (j : Json) : Option Row := do
  let fields ← j.fields? false ["values"] levels
  fields.required "values" (Json.list? (levels - 1) (Value.ofJson? (levels - 2)))

end Row

namespace ColumnType

def toJson (t : ColumnType) : Json := .string t.name

def ofJson? (levels : Nat) (j : Json) : Option ColumnType := do
  names.lookup (← j.bareChoice? levels)

end ColumnType

namespace ColumnMetadata

def toJson (c : ColumnMetadata) : Json :=
  .object [("name", .string c.name), ("column_type", c.type.toJson)]

def ofJson? (levels : Nat) (j : Json) : Option ColumnMetadata := do
  let fields ← j.fields? false ["name", "column_type"] levels
  let name ← fields.required "name" Json.string?
  let type ← fields.required "column_type" (ColumnType.ofJson? (levels - 1))
  return ⟨name, type⟩

end ColumnMetadata

namespace RowMetadata

def toJson (m : RowMetadata) : Json :=
  .single "columns" (.array (m.columns.map ColumnMetadata.toJson))

/-- Metadata as it was written, which need not name its columns well. -/
def ofJson? (levels : Nat) (j : Json) : Option RowMetadata := do
  let fields ← j.fields? false ["columns"] levels
  let columns ← fields.required "columns"
    (Json.list? (levels - 1) (ColumnMetadata.ofJson? (levels - 2)))
  return ⟨columns⟩

end RowMetadata

namespace QueryId

def toJson (id : QueryId) : Json :=
  .object [("member_id", .nat id.member.toNat), ("local_id", .nat id.serial.toNat)]

def ofJson? (levels : Nat) (j : Json) : Option QueryId := do
  let fields ← j.fields? false ["member_id", "local_id"] levels
  let member ← fields.required "member_id" Json.nat?
  let serial ← fields.required "local_id" Json.nat?
  return ⟨UInt64.ofNat member, UInt64.ofNat serial⟩

end QueryId

end JoinEngine
