import JoinEngine.Job.Run

/-!
Rows as a JSON array with an object for each row. A name that two columns share has the value
of the later one. Numbers of single precision are written as the doubles they are.
-/

namespace JoinEngine

def Value.toReportJson : Value → Json
  | null => .null
  | bool b => .bool b
  | int32 n => .int n.toInt
  | int64 n => .int n.toInt
  | float32 x => .number (.double (Double.ofSingle x))
  | float64 x => .number (.double x)
  | string s => .string s
  | bytes b => .array (b.map fun byte => .nat byte.toNat)
  | timestamp t => .int t.toInt

namespace Report

/-- The object of one row; names and values beyond the shorter list are left out. -/
def rowObject (columns : List String) (row : Row) : Json :=
  .object (Json.sortMembers (columns.zip (row.map Value.toReportJson)))

def json (output : JobOutput) : String :=
  (Json.array (output.rows.map (rowObject output.columns))).pretty

end Report

end JoinEngine
