import JoinEngine.Report.Csv
import Mathlib.Data.List.Forall2

/-!
Comma-separated values read back, one character at a time. Commas separate the fields of a record
and newlines the records; the last record may lack its newline. A field that begins with a double
quote goes on to the quote that closes it, and a doubled quote stands for one inside of it. Nothing
but a separator may follow the closing quote, and a field that does not begin with a quote has none.
What a text reads as does not depend on the records and fields before it, so it is enough to read
fields one by one.
-/

namespace JoinEngine.Report

structure CsvField where
  /-- Whether the field stood in quotes. -/
  quoted : Bool
  content : String
  deriving DecidableEq

inductive CsvPlace where
  | start
  | plain
  | quoted
  /-- Behind a quote that closes the field, unless it is the first of a doubled one. -/
  | closed
  deriving DecidableEq

/-- What has been read: the records, the fields of the open record and the characters of the open
field, each of them last first. -/
structure CsvReader where
  records : List (List CsvField) := []
  fields : List CsvField := []
  content : List Char := []
  place : CsvPlace := .start
  deriving DecidableEq

namespace CsvReader

/-- Characters of a field that does not stand in quotes. -/
def isPlain (c : Char) : Bool := c != ',' && c != '"' && c != '\n' && c != '\r'

def before (records : List (List CsvField)) (fields : List CsvField) : CsvReader :=
  ⟨records, fields, [], .start⟩

def endField (r : CsvReader) : CsvReader :=
  before r.records
    (⟨decide (r.place = .closed), String.ofList r.content.reverse⟩ :: r.fields)

def endRecord (r : CsvReader) : CsvReader := before (r.fields.reverse :: r.records) []

def separate (r : CsvReader) (c : Char) : Option CsvReader :=
  if c = ',' then some r.endField
  else if c = '\n' then some r.endField.endRecord
  else none

def readPlain (r : CsvReader) (c : Char) : Option CsvReader :=
  if isPlain c then some { r with content := c :: r.content, place := .plain }
  else r.separate c

def step (r : CsvReader) (c : Char) : Option CsvReader :=
  match r.place with
  | .start => if c = '"' then some { r with place := .quoted } else r.readPlain c
  | .plain => r.readPlain c
  | .quoted =>
    if c = '"' then some { r with place := .closed }
    else some { r with content := c :: r.content }
  | .closed =>
    if c = '"' then some { r with content := c :: r.content, place := .quoted }
    else r.separate c

/-- All records. An open quote is refused, and an open record is the last one. -/
def finish (r : CsvReader) : Option (List (List CsvField)) :=
  if r.place = .quoted then none
  else if r.place = .start ∧ r.fields = [] then some r.records.reverse
  else some r.endField.endRecord.records.reverse

end CsvReader

/-- The records of a text, if it is well-formed. -/
def readCsv (text : String) : Option (List (List CsvField)) :=
  (text.toList.foldlM CsvReader.step {}).bind CsvReader.finish

open CsvReader

/-- The text reads as the field, whatever stands before it. -/
def ReadsAs (text : String) (field : CsvField) : Prop :=
  ∀ records fields, ∃ r, text.toList.foldlM step (before records fields) = some r ∧
    r.place ≠ .quoted ∧ r.endField = before records (field :: fields)

/-! ### Fields -/

theorem step_of_isPlain {r : CsvReader} {c : Char} (hc : isPlain c = true)
    (hplace : r.place = .start ∨ r.place = .plain) :
    step r c = some { r with content := c :: r.content, place := .plain } := by
  have hquote : c ≠ '"' := by
    rintro rfl
    cases hc
  unfold step
  rcases hplace with hplace | hplace
  · rw [hplace]
    simp only [hquote, if_false, readPlain, hc, if_true]
  · rw [hplace]
    simp only [readPlain, hc, if_true]

theorem foldlM_step_of_isPlain {cs : List Char} (hcs : ∀ c ∈ cs, isPlain c = true) {r : CsvReader}
    (hplace : r.place = .start ∨ r.place = .plain) :
    ∃ place, (place = .start ∨ place = .plain) ∧
      cs.foldlM step r = some { r with content := cs.reverse ++ r.content, place } := by
  induction cs generalizing r with
  | nil => exact ⟨r.place, hplace, rfl⟩
  | cons c rest ih =>
      obtain ⟨hc, hrest⟩ := List.forall_mem_cons.mp hcs
      obtain ⟨place, hends, hread⟩ :=
        ih hrest (r := { r with content := c :: r.content, place := .plain }) (Or.inr rfl)
      refine ⟨place, hends, ?_⟩
      rw [List.foldlM_cons, step_of_isPlain hc hplace]
      refine hread.trans ?_
      rw [List.reverse_cons, List.append_assoc]
      rfl

/-- A text without commas, quotes and line breaks is read as it is. -/
theorem readsAs_of_isPlain {text : String} (h : ∀ c ∈ text.toList, isPlain c = true) :
    ReadsAs text ⟨false, text⟩ := by
  intro records fields
  obtain ⟨place, hplace, hread⟩ :=
    foldlM_step_of_isPlain h (r := before records fields) (Or.inl rfl)
  refine ⟨_, hread, ?_, ?_⟩
  · rcases hplace with rfl | rfl <;> nofun
  · have hopen : decide (place = .closed) = false := by
      rcases hplace with rfl | rfl <;> rfl
    simp [endField, before, hopen]

/-- Inside quotes, a text with its quotes doubled adds the text itself. -/
theorem foldlM_step_doubled {cs : List Char} {r : CsvReader} (hplace : r.place = .quoted) :
    (cs.flatMap fun c => if c = '"' then ['"', '"'] else [c]).foldlM step r =
      some { r with content := cs.reverse ++ r.content } := by
  induction cs generalizing r with
  | nil => rfl
  | cons c rest ih =>
      have hchar : (if c = '"' then ['"', '"'] else [c]).foldlM step r =
          some { r with content := c :: r.content } := by
        by_cases hc : c = '"'
        · simp [hc, step, hplace]
        · simp [hc, step, hplace]
      rw [List.flatMap_cons, List.foldlM_append, hchar]
      refine (ih (r := { r with content := c :: r.content }) hplace).trans ?_
      rw [List.reverse_cons, List.append_assoc]
      rfl

/-- A text in quotes is read as itself, whatever it contains. -/
theorem readsAs_quotedField (text : String) : ReadsAs (quotedField text) ⟨true, text⟩ := by
  intro records fields
  let opened : CsvReader := { before records fields with place := .quoted }
  let filled : CsvReader := { opened with content := text.toList.reverse ++ opened.content }
  have hopen : step (before records fields) '"' = some opened := rfl
  have hclose : step filled '"' = some { filled with place := .closed } := rfl
  have hchars : (quotedField text).toList = '"' ::
      ((text.toList.flatMap fun c => if c = '"' then ['"', '"'] else [c]) ++ ['"']) := by
    simp [quotedField, doubleQuotes]
  refine ⟨{ filled with place := .closed }, ?_, nofun, ?_⟩
  · rw [hchars, List.foldlM_cons, hopen]
    change List.foldlM step opened _ = _
    rw [List.foldlM_append, foldlM_step_doubled rfl]
    change List.foldlM step filled ['"'] = _
    rw [List.foldlM_cons, hclose]
    rfl
  · simp [filled, opened, endField, before]

/-! ### Records -/

theorem step_comma {r : CsvReader} (hplace : r.place ≠ .quoted) : step r ',' = some r.endField := by
  unfold step
  cases hr : r.place with
  | quoted => exact absurd hr hplace
  | start | plain | closed => rfl

theorem step_newline {r : CsvReader} (hplace : r.place ≠ .quoted) :
    step r '\n' = some r.endField.endRecord := by
  unfold step
  cases hr : r.place with
  | quoted => exact absurd hr hplace
  | start | plain | closed => rfl

theorem toList_csvLine_singleton (text : String) :
    (csvLine [text]).toList = text.toList ++ ['\n'] := by
  simp [csvLine]

theorem toList_csvLine_cons_cons (text next : String) (rest : List String) :
    (csvLine (text :: next :: rest)).toList =
      text.toList ++ ',' :: (csvLine (next :: rest)).toList := by
  simp [csvLine, String.intercalate_cons_cons]

/-- A line of texts that read as fields is a record of these fields. -/
theorem foldlM_step_line {texts : List String} {read : List CsvField}
    (h : List.Forall₂ ReadsAs texts read) (hsome : texts ≠ []) (records : List (List CsvField))
    (fields : List CsvField) :
    (csvLine texts).toList.foldlM step (before records fields) =
      some (before ((fields.reverse ++ read) :: records) []) := by
  induction h generalizing fields with
  | nil => exact absurd rfl hsome
  | @cons text field rest others hfield hrest ih =>
      obtain ⟨r, hread, hplace, hend⟩ := hfield records fields
      cases hrest with
      | nil =>
          rw [toList_csvLine_singleton, List.foldlM_append, hread]
          change List.foldlM step r ['\n'] = _
          rw [List.foldlM_cons, step_newline hplace, hend]
          simp [before, endRecord]
      | @cons next _ rest _ _ _ =>
          rw [toList_csvLine_cons_cons, List.foldlM_append, hread]
          change List.foldlM step r (',' :: _) = _
          rw [List.foldlM_cons, step_comma hplace, hend]
          refine (ih (List.cons_ne_nil _ _) (field :: fields)).trans ?_
          rw [List.reverse_cons, List.append_assoc]
          rfl

/-- Lines are read as records, one for each. -/
theorem foldlM_step_lines {lines : List (List String)} {read : List (List CsvField)}
    (h : List.Forall₂ (List.Forall₂ ReadsAs) lines read) (hsome : ∀ texts ∈ lines, texts ≠ [])
    (records : List (List CsvField)) :
    (String.join (lines.map csvLine)).toList.foldlM step (before records []) =
      some (before (read.reverse ++ records) []) := by
  induction h generalizing records with
  | nil => rfl
  | @cons texts record lines read hline _ ih =>
      obtain ⟨hfirst, hrest⟩ := List.forall_mem_cons.mp hsome
      rw [List.map_cons, String.join_cons, String.toList_append, List.foldlM_append,
        foldlM_step_line hline hfirst]
      refine (ih hrest _).trans ?_
      rw [List.reverse_cons, List.append_assoc]
      rfl

/-- A text of lines whose fields read as they should is well-formed and has these records. -/
theorem readCsv_lines {lines : List (List String)} {records : List (List CsvField)}
    (h : List.Forall₂ (List.Forall₂ ReadsAs) lines records) (hsome : ∀ texts ∈ lines, texts ≠ []) :
    readCsv (String.join (lines.map csvLine)) = some records := by
  have hread := foldlM_step_lines h hsome []
  unfold readCsv
  rw [show ({} : CsvReader) = before [] [] from rfl, hread]
  simp [finish, before]

/-- A record of two fields, and one whose only field is empty. -/
example : readCsv "1,\"a\"\"\n,\"\n\n" =
    some [[⟨false, "1"⟩, ⟨true, "a\"\n,"⟩], [⟨false, ""⟩]] := by
  decide +kernel

end JoinEngine.Report
