import JoinEngine.Report.Csv
import JoinEngine.Report.Json
import JoinEngine.Report.Table

/-!
Reports in the three formats: of rows, of rows written to a target, and of an error.
-/

namespace JoinEngine

inductive ReportFormat where
  | table
  | json
  | csv
  deriving DecidableEq

namespace ReportFormat

def names : List (String × ReportFormat) := [("table", table), ("json", json), ("csv", csv)]

def output (f : ReportFormat) (o : JobOutput) : String :=
  match f with
  | table => Report.table o
  | json => Report.json o
  | csv => Report.csv o

def insert (f : ReportFormat) (target : String) (rows : Nat) : String :=
  match f with
  | table => s!"{rows} row(s) written to {target}"
  | json => (Json.object [("rows", .nat rows), ("target", .string target)]).compact
  | csv => "target,rows\n" ++ Report.quotedField target ++ "," ++ toString rows

def error (f : ReportFormat) (message : String) : String :=
  match f with
  | table => s!"Error: {message}"
  | json => (Json.single "error" (.string message)).compact
  | csv => "error\n" ++ Report.quotedField message

def finished (f : ReportFormat) (o : JobOutput) : String :=
  match o.sink with
  | some target => f.insert target o.rows.length
  | none => f.output o

end ReportFormat

end JoinEngine
