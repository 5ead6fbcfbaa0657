import JoinEngine.Text.Cluster
import JoinEngine.Text.Width

/-!
Lines broken to fit a column. A line is filled word by word; a word that does not fit starts the
next line, and one that is wider than the column is cut between clusters, which ends the line. A
line with room for no more than two columns counts as full.
-/

namespace JoinEngine.Report

/-- Columns left at the end of a line for which no further word is begun. -/
def spareColumns : Nat := 2

/-- A line being filled. A leading blank is not kept, so a line without words is empty. -/
structure Filling where
  /-- The words of the line, the last one first. -/
  words : List (List Char) := []
  width : Nat := 0

namespace Filling

def isEmpty (line : Filling) : Bool := line.words.isEmpty

def gap (line : Filling) : Nat := if line.isEmpty then 0 else 1

def room (line : Filling) (limit : Nat) : Nat := limit - line.width - line.gap

def add (line : Filling) (word : List Char) (width : Nat) : Filling :=
  if line.isEmpty && word.isEmpty then line
  else ⟨word :: line.words, line.width + line.gap + width⟩

def text (line : Filling) : String :=
  String.ofList (List.intercalate [' '] line.words.reverse)

def isFull (line : Filling) (limit : Nat) : Bool := limit - spareColumns < line.width

end Filling

/-- Cuts a word behind the clusters that fit into a number of columns, one by one; `taken` holds
the characters before them, the last one first. -/
def cutWord (taken : List Char) (room : Nat) : List (List Char) → List Char × List Char
  | [] => (taken.reverse, [])
  | cluster :: rest =>
    let width := Text.charsWidth cluster
    if room < width then (taken.reverse, (cluster :: rest).flatten)
    else cutWord (cluster.reverse ++ taken) (room - width) rest

/-- Cuts a word for a line. An empty line takes at least one character, which breaks a cluster
that is wider than the column. -/
def cutFor (line : Filling) (limit : Nat) (word : List Char) : List Char × List Char :=
  match cutWord [] (line.room limit) (Text.clusters word) with
  | ([], c :: rest) => if line.isEmpty then ([c], rest) else ([], c :: rest)
  | parts => parts

/-- Fills lines with words. Each step uses up a word or a part of one, or ends a line. -/
def fillLines (limit : Nat) : Nat → Filling → List (List Char) → List String
  | 0, line, _ => if line.isEmpty then [] else [line.text]
  | _ + 1, line, [] => if line.isEmpty then [] else [line.text]
  | fuel + 1, line, word :: rest =>
    let width := Text.charsWidth word
    if width + line.width + line.gap ≤ limit then
      let line := line.add word width
      if line.isFull limit then line.text :: fillLines limit fuel {} rest
      else fillLines limit fuel line rest
    else if !line.isEmpty && line.room limit ≤ spareColumns then
      line.text :: fillLines limit fuel {} (word :: rest)
    else if limit < width then
      let (head, tail) := cutFor line limit word
      (line.add head (Text.charsWidth head)).text :: fillLines limit fuel {} (tail :: rest)
    else line.text :: fillLines limit fuel {} (word :: rest)

def brokenLine (limit : Nat) (line : String) : List String :=
  if Text.width line ≤ limit then [line]
  else
    let words := (line.splitOn " ").map String.toList
    fillLines limit (2 * (line.length + words.length)) {} words

end JoinEngine.Report
