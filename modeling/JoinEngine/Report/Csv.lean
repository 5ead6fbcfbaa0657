import JoinEngine.Job.Run

/-!
Rows as comma-separated values. Strings stand in double quotes with the quotes inside them
doubled; nulls are empty; other values are written as they display. The names in the header are
written as they are.
-/

namespace JoinEngine.Report

def doubleQuotes (s : String) : String :=
  String.ofList (s.toList.flatMap fun c => if c = '"' then ['"', '"'] else [c])

def quotedField (s : String) : String := "\"" ++ doubleQuotes s ++ "\""

def csvField : Value → String
  | .null => ""
  | .string s => quotedField s
  | v => v.text

def csvLine (fields : List String) : String := String.intercalate "," fields ++ "\n"

def csv (output : JobOutput) : String :=
  csvLine output.columns ++ String.join (output.rows.map fun row => csvLine (row.map csvField))

end JoinEngine.Report
