import JoinEngine.Job.Run
import JoinEngine.Report.Wrap

/-!
Rows in a table drawn with plain characters. A cell has a line for each line of its text and a
blank on both sides; a column is as wide as its widest line, in terminal columns, at least one
and at most as many as a terminal can have. A rule stands between any two rows, and the rule
under the header has no junctions.
-/

namespace JoinEngine.Report

/-- The greatest number of terminal columns. -/
def maxColumns : Nat := 65535

def cellLines (text : String) : List String := text.splitOn "\n"

def cellWidth (text : String) : Nat := ((cellLines text).map Text.width).foldl max 0

def columnWidths (rows : List (List String)) : List Nat :=
  let columns := (rows.map List.length).foldl max 0
  (List.range columns).map fun i =>
    min maxColumns ((rows.map fun row => cellWidth (row.getD i "")).foldl max 1)

def paddedWidth (width : Nat) : Nat := min maxColumns (width + 2)

def blanks (count : Nat) : String := String.ofList (List.replicate count ' ')

def paddedLine (width : Nat) (line : String) : String :=
  " " ++ line ++ blanks (width - Text.width line) ++ " "

/-- The lines of a cell in a column, broken where they are wider than it. -/
def paddedLines (width : Nat) (text : String) : List String :=
  ((cellLines text).flatMap (brokenLine width)).map (paddedLine width)

/-- The lines of one row; cells that are missing are blank. -/
def rowLines (widths : List Nat) (row : List String) : List String :=
  let cells := widths.zipIdx.map fun (width, i) =>
    let blank := blanks (paddedWidth width)
    (blank, ((row[i]?.map (paddedLines width)).getD [blank]).toArray)
  let height := (cells.map fun (_, lines) => lines.size).foldl max 0
  (List.range height).map fun k =>
    "|" ++ String.join (cells.map fun (blank, lines) => lines.getD k blank ++ "|")

def rule (left : String) (stroke : Char) (junction right : String) (widths : List Nat) :
    String :=
  left ++ String.intercalate junction
    (widths.map fun width => String.ofList (List.replicate (paddedWidth width) stroke)) ++ right

/-- Header and rows, each row behind a rule. -/
def tableLines (header : List String) (rows : List (List String)) : List String :=
  let widths := columnWidths (header :: rows)
  let between := rule "|" '-' "+" "|" widths
  let edge := rule "+" '-' "+" "+" widths
  let body := match rows.map (rowLines widths) with
    | [] => []
    | first :: rest => first ++ rest.flatMap fun lines => between :: lines
  edge :: rowLines widths header ++ rule "+" '=' "=" "+" widths :: body ++ [edge]

def table (output : JobOutput) : String :=
  if output.rows.isEmpty then "No results"
  else
    let rows := output.rows.map fun row => row.map Value.text
    String.intercalate "\n" (tableLines output.columns rows)
      ++ s!"\n{output.rows.length} row(s)"

end JoinEngine.Report
