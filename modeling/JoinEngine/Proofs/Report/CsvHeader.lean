import JoinEngine.Proofs.Report.CsvRecords

/-!
The header of a report of comma-separated values read back. The names of the columns are written
without quotes around them, so the header reads as the names exactly if none of them has a comma, a
quote or a line break. A comma or a newline ends a field too early, any other character that is
not plain makes the text ill-formed, and a name that begins with a quote is never its own content:
every quote in the content takes two in the text, so the content would have to go on for ever.
-/

namespace JoinEngine.Report

namespace CsvReader

/-- Read up to the end of a record, which may be the end of the text. -/
def readRecord (r : CsvReader) : List Char → Option (List CsvField)
  | [] => r.finish.bind List.head?
  | c :: rest => do
    let next ← r.step c
    match next.records with
    | record :: _ => some record
    | [] => next.readRecord rest

def field (r : CsvReader) : CsvField :=
  ⟨decide (r.place = .closed), String.ofList r.content.reverse⟩

variable {r next : CsvReader} {c : Char} {rest : List Char} {record : List CsvField}

theorem eq_of_separate (h : r.separate c = some next) :
    next = r.endField ∨ next = r.endField.endRecord := by
  unfold separate at h
  split at h
  · exact Or.inl (Option.some.inj h).symm
  · split at h
    · exact Or.inr (Option.some.inj h).symm
    · cases h

/-- A character becomes part of the open field, or it ends the field, or the record with it. -/
theorem step_cases (h : r.step c = some next) :
    (∃ content place, next = { r with content, place }) ∨ next = r.endField ∨
      next = r.endField.endRecord := by
  have hplain (h : r.readPlain c = some next) :
      (∃ content place, next = { r with content, place }) ∨ next = r.endField ∨
        next = r.endField.endRecord := by
    unfold readPlain at h
    split at h
    · exact Or.inl ⟨_, _, (Option.some.inj h).symm⟩
    · exact Or.inr (eq_of_separate h)
  unfold step at h
  cases hplace : r.place with
  | start =>
      simp only [hplace] at h
      split at h
      · exact Or.inl ⟨r.content, .quoted, (Option.some.inj h).symm⟩
      · exact hplain h
  | plain =>
      simp only [hplace] at h
      exact hplain h
  | quoted =>
      simp only [hplace] at h
      split at h
      · exact Or.inl ⟨r.content, .closed, (Option.some.inj h).symm⟩
      · exact Or.inl ⟨_, .quoted, by rw [← Option.some.inj h, ← hplace]⟩
  | closed =>
      simp only [hplace] at h
      split at h
      · exact Or.inl ⟨_, _, (Option.some.inj h).symm⟩
      · exact Or.inr (eq_of_separate h)

theorem readRecord_cons (hstep : r.step c = some next) (hopen : next.records = []) :
    r.readRecord (c :: rest) = next.readRecord rest := by
  rw [readRecord, hstep]
  simp only [Option.bind_eq_bind, Option.bind_some, hopen]

theorem readRecord_cons_ended {records : List (List CsvField)} (hstep : r.step c = some next)
    (hended : next.records = record :: records) : r.readRecord (c :: rest) = some record := by
  rw [readRecord, hstep]
  simp only [Option.bind_eq_bind, Option.bind_some, hended]

/-- A record that ends with the text ends with the open field. -/
theorem eq_of_readRecord_nil (h : r.readRecord [] = some record) (hopen : r.records = []) :
    record = r.fields.reverse ++ [r.field] := by
  unfold readRecord finish at h
  split at h
  · cases h
  split at h
  · rw [hopen] at h
    cases h
  · simp only [endField, endRecord, before, hopen, List.reverse_cons, List.reverse_nil,
      List.nil_append, Option.bind_some, List.head?_cons, Option.some.injEq] at h
    exact h.symm

/-- A record begins with the fields that have been read. -/
theorem begins_of_readRecord {cs : List Char} (h : r.readRecord cs = some record)
    (hopen : r.records = []) : ∃ more, record = r.fields.reverse ++ more := by
  induction cs generalizing r with
  | nil => exact ⟨_, eq_of_readRecord_nil h hopen⟩
  | cons c rest ih =>
      cases hstep : r.step c with
      | none =>
          rw [readRecord, hstep] at h
          cases h
      | some next =>
          rcases step_cases hstep with ⟨content, place, rfl⟩ | rfl | rfl
          · rw [readRecord_cons hstep hopen] at h
            obtain ⟨more, rfl⟩ := ih h hopen
            exact ⟨more, rfl⟩
          · rw [readRecord_cons hstep hopen] at h
            obtain ⟨more, rfl⟩ := ih h hopen
            exact ⟨r.field :: more, by simp [endField, before, field]⟩
          · rw [readRecord_cons_ended hstep rfl] at h
            obtain rfl := Option.some.inj h
            exact ⟨[r.field], by simp [endField, before, field]⟩

/-- What ends a field puts it into the record. -/
theorem begins_of_separate (h : r.readRecord (c :: rest) = some record) (hopen : r.records = [])
    (hstep : r.step c = r.separate c) : ∃ more, record = r.fields.reverse ++ r.field :: more := by
  cases hseparate : r.separate c with
  | none =>
      rw [readRecord, hstep, hseparate] at h
      cases h
  | some next =>
      rw [hseparate] at hstep
      rcases eq_of_separate hseparate with rfl | rfl
      · rw [readRecord_cons hstep hopen] at h
        obtain ⟨more, rfl⟩ := begins_of_readRecord h hopen
        exact ⟨more, by simp [endField, before, field]⟩
      · rw [readRecord_cons_ended hstep rfl] at h
        obtain rfl := Option.some.inj h
        exact ⟨[], by simp [endField, before, field]⟩

def doubled (cs : List Char) : List Char :=
  cs.flatMap fun c => if c = '"' then ['"', '"'] else [c]

theorem doubled_quote (cs : List Char) : doubled ('"' :: cs) = '"' :: '"' :: doubled cs := rfl

theorem doubled_cons (hc : c ≠ '"') (cs : List Char) : doubled (c :: cs) = c :: doubled cs := by
  simp [doubled, hc]

/-- Behind a quote that closes a field either a second one follows, or the field has ended. -/
theorem closed_of_readRecord {cs : List Char} (h : r.readRecord cs = some record)
    (hopen : r.records = []) (hplace : r.place = .closed) :
    (∃ rest, cs = '"' :: rest) ∨ ∃ more, record = r.fields.reverse ++ r.field :: more := by
  cases cs with
  | nil => exact Or.inr ⟨[], eq_of_readRecord_nil h hopen⟩
  | cons c rest =>
      by_cases hc : c = '"'
      · exact Or.inl ⟨rest, by rw [hc]⟩
      · exact Or.inr (begins_of_separate h hopen (by simp [step, hplace, hc]))

/-- From inside of quotes, a record is read only if the quotes are closed, and what is before that
is the content of the field with its quotes doubled. -/
theorem quoted_of_readRecord (r : CsvReader) {cs : List Char} (h : r.readRecord cs = some record)
    (hopen : r.records = []) (hplace : r.place = .quoted) :
    ∃ content rest more, cs = doubled content ++ '"' :: rest ∧
      record =
        r.fields.reverse ++ ⟨true, String.ofList (r.content.reverse ++ content)⟩ :: more := by
  match cs with
  | [] =>
      unfold readRecord finish at h
      rw [if_pos hplace] at h
      cases h
  | c :: cs =>
      by_cases hc : c = '"'
      · subst hc
        let closed : CsvReader := { r with place := .closed }
        have hstep : r.step '"' = some closed := by simp [step, hplace, closed]
        rw [readRecord_cons hstep hopen] at h
        rcases closed_of_readRecord h hopen rfl with ⟨rest, rfl⟩ | ⟨more, rfl⟩
        · let inside : CsvReader := { r with content := '"' :: r.content }
          have hstep : closed.step '"' = some inside := by simp [step, closed, inside, ← hplace]
          rw [readRecord_cons hstep hopen] at h
          obtain ⟨content, rest, more, rfl, rfl⟩ := quoted_of_readRecord inside h hopen hplace
          exact ⟨'"' :: content, rest, more, rfl, by simp [inside]⟩
        · exact ⟨[], cs, more, rfl, by simp [closed, field]⟩
      · let inside : CsvReader := { r with content := c :: r.content }
        have hstep : r.step c = some inside := by simp [step, hplace, inside, hc]
        rw [readRecord_cons hstep hopen] at h
        obtain ⟨content, rest, more, rfl, rfl⟩ := quoted_of_readRecord inside h hopen hplace
        exact ⟨c :: content, rest, more, by rw [doubled_cons hc]; rfl, by simp [inside]⟩
termination_by cs.length

/-- Plain characters become part of a field without quotes. -/
theorem readRecord_of_isPlain {cs : List Char} (hcs : ∀ c ∈ cs, isPlain c = true)
    (hopen : r.records = []) (hplace : r.place = .start ∨ r.place = .plain) :
    r.readRecord (cs ++ rest) =
      { r with
        content := cs.reverse ++ r.content
        place := if cs = [] then r.place else .plain }.readRecord rest := by
  induction cs generalizing r with
  | nil => rfl
  | cons c cs ih =>
      obtain ⟨hc, hcs⟩ := List.forall_mem_cons.mp hcs
      rw [List.cons_append, readRecord_cons (step_of_isPlain hc hplace) hopen,
        ih (r := { r with content := c :: r.content, place := .plain }) hcs hopen (Or.inr rfl),
        List.reverse_cons, List.append_assoc]
      simp

/-- Outside of quotes, a character that is not plain can only end a field. -/
theorem step_of_not_plain (hc : isPlain c = false)
    (hplace : r.place = .start ∧ c ≠ '"' ∨ r.place = .plain) : r.step c = r.separate c := by
  unfold step
  rcases hplace with ⟨hstart, hquote⟩ | hplain
  · rw [hstart]
    simp only [if_neg hquote, readPlain, hc]
    rfl
  · rw [hplain]
    simp only [readPlain, hc]
    rfl

end CsvReader

open CsvReader

variable {name : String} {fields record : List CsvField} {c : Char} {rest : List Char}

/-! ### Names that are plain -/

theorem readRecord_of_plain (h : Plain name) (fields : List CsvField) (rest : List Char) :
    ∃ r : CsvReader, (before [] fields).readRecord (name.toList ++ rest) = r.readRecord rest ∧
      r.records = [] ∧ r.place ≠ .quoted ∧ r.endField = before [] (⟨false, name⟩ :: fields) := by
  refine ⟨_, readRecord_of_isPlain h rfl (Or.inl rfl), rfl, ?_, ?_⟩
  · split <;> nofun
  · split <;> simp [endField, before]

/-- A plain name before a comma is a field. -/
theorem readRecord_plain_comma (h : Plain name) :
    (before [] fields).readRecord (name.toList ++ ',' :: rest) =
      (before [] (⟨false, name⟩ :: fields)).readRecord rest := by
  obtain ⟨r, hread, hopen, hplace, hend⟩ := readRecord_of_plain h fields (',' :: rest)
  rw [hread, readRecord_cons (step_comma hplace) hopen, hend]

/-- A plain name before a newline is the last field. -/
theorem readRecord_plain_newline (h : Plain name) :
    (before [] fields).readRecord (name.toList ++ '\n' :: rest) =
      some (fields.reverse ++ [⟨false, name⟩]) := by
  obtain ⟨r, hread, hopen, hplace, hend⟩ := readRecord_of_plain h fields ('\n' :: rest)
  have hended : r.endField.endRecord.records = [fields.reverse ++ [⟨false, name⟩]] := by
    simp [hend, endRecord, before]
  rw [hread, readRecord_cons_ended (step_newline hplace) hended]

/-! ### Names that are not -/

/-- Text with its quotes doubled is not the text itself behind a quote, unless it goes on with a
quote: the text would be quotes only, and half as many as there are. -/
theorem eq_quote_of_doubled {name rest others : List Char} (k : Nat)
    (h : name ++ c :: rest = List.replicate (k + 1) '"' ++ (doubled name ++ others)) :
    c = '"' := by
  induction name generalizing k with
  | nil => exact (List.cons.inj h).1
  | cons d name ih =>
      rw [List.cons_append, List.replicate_succ, List.cons_append, List.cons.injEq] at h
      obtain ⟨rfl, h⟩ := h
      apply ih (k + 1)
      rw [h, doubled_quote, List.replicate_succ' (n := k + 1), List.replicate_succ' (n := k)]
      simp

/-- A name that is not plain is not what its field is read as, if a record is read at all. -/
theorem misread_of_not_plain (hname : ¬ Plain name) (hc : c = ',' ∨ c = '\n')
    (h : (before [] fields).readRecord (name.toList ++ c :: rest) = some record) :
    ∃ field more, record = fields.reverse ++ field :: more ∧ field.content ≠ name := by
  have hsome : ∃ d, name.toList.find? (fun d => !isPlain d) = some d := by
    rw [← Option.isSome_iff_exists, List.find?_isSome]
    simpa [Plain] using hname
  obtain ⟨d, hd⟩ := hsome
  obtain ⟨hplain, front, back, hsplit, hfront⟩ := List.find?_eq_some_iff_append.mp hd
  have hfront : ∀ d ∈ front, isPlain d = true := by simpa using hfront
  have hplain : isPlain d = false := by simpa using hplain
  rw [hsplit, List.append_assoc, readRecord_of_isPlain hfront rfl (Or.inl rfl)] at h
  by_cases hquote : front = [] ∧ d = '"'
  · obtain ⟨rfl, rfl⟩ := hquote
    let opened : CsvReader := { before [] fields with place := .quoted }
    have hstep : (before [] fields).step '"' = some opened := rfl
    change (before [] fields).readRecord ('"' :: (back ++ c :: rest)) = some record at h
    rw [readRecord_cons hstep rfl] at h
    obtain ⟨content, others, more, htext, rfl⟩ := quoted_of_readRecord opened h rfl rfl
    refine ⟨_, more, rfl, ?_⟩
    rintro rfl
    have hcontent : content = '"' :: back := by simpa [opened, before] using hsplit
    have hself : content ++ c :: rest =
        List.replicate (0 + 1) '"' ++ (doubled content ++ '"' :: others) := by
      rw [← htext, hcontent]
      rfl
    rcases hc with rfl | rfl
    · exact absurd (eq_quote_of_doubled 0 hself) (by decide)
    · exact absurd (eq_quote_of_doubled 0 hself) (by decide)
  · have hplace : let place : CsvPlace := if front = [] then .start else .plain
        place = .start ∧ d ≠ '"' ∨ place = .plain := by
      by_cases hfirst : front = []
      · exact Or.inl ⟨if_pos hfirst, fun hd => hquote ⟨hfirst, hd⟩⟩
      · exact Or.inr (if_neg hfirst)
    obtain ⟨more, rfl⟩ := begins_of_separate h rfl (step_of_not_plain hplain hplace)
    refine ⟨_, more, rfl, fun hcontent => ?_⟩
    have hlength := congrArg (fun s => s.toList.length) hcontent
    rw [hsplit] at hlength
    simp [field, before] at hlength

/-! ### Headers -/

/-- The names of a header as fields. -/
def headerFields (names : List String) : List CsvField := names.map fun name => ⟨false, name⟩

theorem readRecord_of_plain_names {names : List String} (hsome : names ≠ [])
    (h : ∀ name ∈ names, Plain name) (fields : List CsvField) :
    (before [] fields).readRecord ((csvLine names).toList ++ rest) =
      some (fields.reverse ++ headerFields names) := by
  induction names generalizing fields with
  | nil => exact absurd rfl hsome
  | cons name more ih =>
      obtain ⟨hname, hmore⟩ := List.forall_mem_cons.mp h
      cases more with
      | nil =>
          rw [toList_csvLine_singleton, List.append_assoc]
          exact readRecord_plain_newline hname
      | cons next more =>
          rw [toList_csvLine_cons_cons, List.append_assoc, List.cons_append,
            readRecord_plain_comma hname, ih (List.cons_ne_nil _ _) hmore, List.reverse_cons,
            List.append_assoc]
          rfl

/-- A name stands before what separates it from what follows. -/
theorem exists_separator (name : String) (more : List String) (rest : List Char) :
    ∃ c tail, (c = ',' ∨ c = '\n') ∧
      (csvLine (name :: more)).toList ++ rest = name.toList ++ c :: tail := by
  cases more with
  | nil => exact ⟨'\n', rest, Or.inr rfl, by simp [toList_csvLine_singleton]⟩
  | cons next more =>
      exact ⟨',', (csvLine (next :: more)).toList ++ rest, Or.inl rfl,
        by simp [toList_csvLine_cons_cons]⟩

/-- A header that reads as its names has plain names only. -/
theorem plain_of_readRecord {names : List String} (fields : List CsvField)
    (h : (before [] fields).readRecord ((csvLine names).toList ++ rest) = some record)
    (hcontents : record.map CsvField.content = fields.reverse.map CsvField.content ++ names) :
    ∀ name ∈ names, Plain name := by
  induction names generalizing fields with
  | nil => nofun
  | cons name more ih =>
      have hname : Plain name := by
        obtain ⟨c, tail, hc, htext⟩ := exists_separator name more rest
        rw [htext] at h
        by_contra hname
        obtain ⟨field, others, rfl, hdiffers⟩ := misread_of_not_plain hname hc h
        rw [List.map_append, List.append_cancel_left_eq] at hcontents
        exact hdiffers (List.cons.inj hcontents).1
      refine List.forall_mem_cons.mpr ⟨hname, ?_⟩
      cases more with
      | nil => nofun
      | cons next more =>
          rw [toList_csvLine_cons_cons, List.append_assoc, List.cons_append,
            readRecord_plain_comma hname] at h
          apply ih _ h
          rw [hcontents, List.reverse_cons, List.map_append, List.append_assoc]
          rfl

theorem content_headerFields (names : List String) :
    (headerFields names).map CsvField.content = names := by
  rw [headerFields, List.map_map]
  exact List.map_id names

/-- The lines of a report whose column names are plain read as the names and the rows. -/
theorem readsAs_lines {output : JobOutput} (hplain : ∀ name ∈ output.columns, Plain name) :
    List.Forall₂ (List.Forall₂ ReadsAs) (output.columns :: output.rows.map (·.map csvField))
      (headerFields output.columns :: output.rows.map (·.map Value.field)) := by
  refine .cons ?_ ?_
  · rw [headerFields, List.forall₂_map_right_iff, List.forall₂_same]
    exact fun name member => readsAs_of_isPlain (hplain name member)
  · rw [List.forall₂_map_left_iff, List.forall₂_map_right_iff, List.forall₂_same]
    intro row _
    rw [List.forall₂_map_left_iff, List.forall₂_map_right_iff, List.forall₂_same]
    exact fun v _ => v.readsAs_field

def firstRecord? (text : String) : Option (List CsvField) :=
  CsvReader.readRecord {} text.toList

/-- The header of a report reads as the names of its columns exactly if all names are plain; a name
with a comma, a quote or a line break is written without quotes like any other, and reads as
something else or makes the header ill-formed. Where the names are plain and each row has a value
for each column, the report reads as a whole: the names in their order, then the rows, and all
records have as many fields as there are columns. -/
theorem csv_header_reads_iff_plain (output : JobOutput) (hsome : output.columns ≠ []) :
    ((∃ header, firstRecord? (csv output) = some header ∧
        header.map CsvField.content = output.columns) ↔
      ∀ name ∈ output.columns, Plain name) ∧
    ((∀ name ∈ output.columns, Plain name) →
      (∀ row ∈ output.rows, row.length = output.columns.length) →
      ∃ records, readCsv (csv output) = some records ∧
        records = headerFields output.columns :: output.rows.map (·.map Value.field) ∧
        ∀ record ∈ records, record.length = output.columns.length) := by
  constructor
  · have hchars : ∃ rest, (csv output).toList = (csvLine output.columns).toList ++ rest :=
      ⟨_, by rw [csv, String.toList_append]⟩
    obtain ⟨rest, hchars⟩ := hchars
    unfold firstRecord?
    rw [hchars]
    constructor
    · rintro ⟨header, hread, hcontents⟩
      exact plain_of_readRecord [] hread hcontents
    · intro hplain
      exact ⟨_, readRecord_of_plain_names hsome hplain [], content_headerFields output.columns⟩
  · intro hplain hrows
    have hlines : ∀ texts ∈ output.columns :: output.rows.map (·.map csvField), texts ≠ [] := by
      refine List.forall_mem_cons.mpr ⟨hsome, List.forall_mem_map.mpr fun row member hnone => ?_⟩
      rw [List.map_eq_nil_iff] at hnone
      have hwidth := hrows row member
      rw [hnone] at hwidth
      exact hsome (List.length_eq_zero_iff.mp hwidth.symm)
    have hreport : csv output =
        String.join ((output.columns :: output.rows.map (·.map csvField)).map csvLine) := by
      rw [List.map_cons, String.join_cons, List.map_map]
      rfl
    refine ⟨_, ?_, rfl, ?_⟩
    · rw [hreport]
      exact readCsv_lines (readsAs_lines hplain) hlines
    · refine List.forall_mem_cons.mpr ⟨List.length_map _, List.forall_mem_map.mpr ?_⟩
      intro row member
      rw [List.length_map]
      exact hrows row member

/-- Names with blanks, an apostrophe and a letter beyond ASCII, above rows with every tricky
cell. -/
theorem csv_header_of_plain_names :
    let output : JobOutput := ⟨["a b", "it's", "é"],
      [[.string "x,\"", .null, .string ""], [.bool true, .string "\n", .int32 (-1)]], none⟩
    (∃ header, firstRecord? (csv output) = some header ∧
        header.map CsvField.content = output.columns) ∧
      readCsv (csv output) = some [[⟨false, "a b"⟩, ⟨false, "it's"⟩, ⟨false, "é"⟩],
        [⟨true, "x,\""⟩, ⟨false, ""⟩, ⟨true, ""⟩],
        [⟨false, "true"⟩, ⟨true, "\n"⟩, ⟨false, "-1"⟩]] := by
  intro output
  have hplain : ∀ name ∈ output.columns, Plain name := by decide +kernel
  have hrows : ∀ row ∈ output.rows, row.length = output.columns.length := by decide
  obtain ⟨hheader, hreport⟩ := csv_header_reads_iff_plain output (by decide)
  obtain ⟨records, hrecords, rfl, -⟩ := hreport hplain hrows
  refine ⟨hheader.mpr hplain, hrecords.trans ?_⟩
  decide +kernel

/-- Metadata accepts a name with a comma in it, but the header then has two fields, neither of
which is the name, above records of one. -/
theorem csv_header_splits_name :
    let columns : List ColumnMetadata := [⟨"a,b", .unknown⟩]
    let output : JobOutput := ⟨columns.map (·.name), [[.int32 1]], none⟩
    RowMetadata.ofColumns columns = .ok ⟨columns⟩ ∧
      firstRecord? (csv output) = some [⟨false, "a"⟩, ⟨false, "b"⟩] ∧
      readCsv (csv output) = some [[⟨false, "a"⟩, ⟨false, "b"⟩], [⟨false, "1"⟩]] ∧
      ¬ ∃ header, firstRecord? (csv output) = some header ∧
        header.map CsvField.content = output.columns := by
  intro columns output
  have haccepted : RowMetadata.ofColumns columns = .ok ⟨columns⟩ := rfl
  have hfirst : firstRecord? (csv output) = some [⟨false, "a"⟩, ⟨false, "b"⟩] := by
    decide +kernel
  refine ⟨haccepted, hfirst, by decide +kernel, ?_⟩
  rintro ⟨header, hread, hcontents⟩
  rw [hfirst] at hread
  obtain rfl := Option.some.inj hread
  exact absurd hcontents (by decide)

end JoinEngine.Report
