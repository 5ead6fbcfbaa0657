import JoinEngine.Number.Style
import JoinEngine.Text.Quoted

/-!
Values held in rows. A value may be null. Equality of this type tells floating-point numbers
apart by their bits; `sameAs` compares them as numbers, and SQL comparison is in
`JoinEngine.Value.Compare`.
-/

namespace JoinEngine

inductive Value where
  | null
  | bool (b : Bool)
  | int32 (n : Int32)
  | int64 (n : Int64)
  | float32 (x : Single)
  | float64 (x : Double)
  | string (s : String)
  | bytes (b : List UInt8)
  /-- Microseconds since the start of 1970. -/
  | timestamp (t : Int64)
  deriving DecidableEq

namespace Value

/-- A value that may be missing is null where it is. -/
def ofOption {α : Type} (make : α → Value) : Option α → Value
  | some a => make a
  | none => .null

def isNull : Value → Bool
  | null => true
  | _ => false

def bool? : Value → Option Bool
  | bool b => some b
  | _ => none

def int? : Value → Option Int64
  | int32 n => some n.toInt64
  | int64 n => some n
  | _ => none

/-- The double nearest to a number of any kind. -/
def double? : Value → Option Double
  | float64 x => some x
  | float32 x => some (Double.ofSingle x)
  | int32 n => some (Double.ofInt n.toInt)
  | int64 n => some (Double.ofInt n.toInt)
  | _ => none

def string? : Value → Option String
  | string s => some s
  | _ => none

def bytes? : Value → Option (List UInt8)
  | bytes b => some b
  | _ => none

def timestamp? : Value → Option Int64
  | timestamp t => some t
  | _ => none

def typeName : Value → String
  | null => "NULL"
  | bool _ => "BOOLEAN"
  | int32 _ => "INT"
  | int64 _ => "BIGINT"
  | float32 _ => "REAL"
  | float64 _ => "DOUBLE"
  | string _ => "VARCHAR"
  | bytes _ => "VARBINARY"
  | timestamp _ => "TIMESTAMP"

def hexOfBytes (b : List UInt8) : String :=
  String.ofList (b.flatMap fun byte => Text.hexDigits 2 byte.toNat)

/-- The value as SQL writes it. The text of a string is not escaped. -/
def display : Value → String
  | null => "NULL"
  | bool b => if b then "true" else "false"
  | int32 n => toString n.toInt
  | int64 n => toString n.toInt
  | float32 x => FloatStyle.display.ofSingle x
  | float64 x => FloatStyle.display.ofDouble x
  | string s => "'" ++ s ++ "'"
  | bytes b => "X'" ++ hexOfBytes b ++ "'"
  | timestamp t => "TIMESTAMP(" ++ toString t.toInt ++ ")"

/-- The value as text: a string is its own text. -/
def text : Value → String
  | string s => s
  | v => v.display

def dump : Value → String
  | null => "Null"
  | bool b => "Bool(" ++ (if b then "true" else "false") ++ ")"
  | int32 n => "Int32(" ++ toString n.toInt ++ ")"
  | int64 n => "Int64(" ++ toString n.toInt ++ ")"
  | float32 x => "Float32(" ++ FloatStyle.dump.ofSingle x ++ ")"
  | float64 x => "Float64(" ++ FloatStyle.dump.ofDouble x ++ ")"
  | string s => "String(" ++ Text.quote s ++ ")"
  | bytes b => "Bytes([" ++ String.intercalate ", " (b.map fun x => toString x.toNat) ++ "])"
  | timestamp t => "Timestamp(" ++ toString t.toInt ++ ")"

/-- Same kind and equal content. Floating-point numbers are compared as numbers: both zeros are
the same, and what is not a number differs from itself. -/
def sameAs : Value → Value → Bool
  | null, null => true
  | bool a, bool b => a == b
  | int32 a, int32 b => a == b
  | int64 a, int64 b => a == b
  | float32 a, float32 b => (Double.ofSingle a).compare? (Double.ofSingle b) == some .eq
  | float64 a, float64 b => a.compare? b == some .eq
  | string a, string b => a == b
  | bytes a, bytes b => a == b
  | timestamp a, timestamp b => a == b
  | _, _ => false

end Value

end JoinEngine
