import JoinEngine.Error

/-!
Names and types of the columns a plan produces. Checked metadata has no unnamed column and no
name twice, so a name finds at most one column.
-/

namespace JoinEngine

inductive ColumnType where
  | boolean
  | int
  | bigInt
  | real
  | double
  | varchar
  | varbinary
  | timestamp
  | unknown
  deriving DecidableEq

namespace ColumnType

def names : List (String × ColumnType) :=
  [("Boolean", .boolean), ("Int", .int), ("BigInt", .bigInt), ("Real", .real),
    ("Double", .double), ("Varchar", .varchar), ("Varbinary", .varbinary),
    ("Timestamp", .timestamp), ("Unknown", .unknown)]

def name : ColumnType → String
  | boolean => "Boolean"
  | int => "Int"
  | bigInt => "BigInt"
  | real => "Real"
  | double => "Double"
  | varchar => "Varchar"
  | varbinary => "Varbinary"
  | timestamp => "Timestamp"
  | unknown => "Unknown"

end ColumnType

structure ColumnMetadata where
  name : String
  type : ColumnType
  deriving DecidableEq

structure RowMetadata where
  columns : List ColumnMetadata
  deriving DecidableEq

namespace RowMetadata

/-- The first fault in a list of columns that come after columns named `seen`. -/
def fault? (seen : List String) : List ColumnMetadata → Option MetadataFault
  | [] => none
  | column :: rest =>
    if column.name.isEmpty then some (.unnamed seen.length)
    else if seen.contains column.name then some (.duplicate column.name)
    else fault? (seen ++ [column.name]) rest

def ofColumns (columns : List ColumnMetadata) : Except ShapeError RowMetadata :=
  match fault? [] columns with
  | some fault => .error (.metadata fault)
  | none => .ok ⟨columns⟩

def empty : RowMetadata := ⟨[]⟩

def count (m : RowMetadata) : Nat := m.columns.length

def column? (m : RowMetadata) (index : Nat) : Option ColumnMetadata := m.columns[index]?

def find? (m : RowMetadata) (name : String) : Option Nat :=
  m.columns.findIdx? (·.name == name)

end RowMetadata

end JoinEngine
