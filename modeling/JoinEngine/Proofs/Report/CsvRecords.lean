import JoinEngine.Proofs.Json.Tokens
import JoinEngine.Proofs.Report.CsvReading

/-!
The rows of a report of comma-separated values read back. A string stands in quotes with its quotes
doubled, so whatever it contains is read as itself and ends where it should. A null is nothing at
all, which differs from the empty string, and every other value displays without a comma, a quote or
a line break: floating-point numbers too, as their texts are positional digits or one of two words.
-/

namespace JoinEngine

open Report CsvReader

/-! ### Texts without commas, quotes and line breaks -/

namespace Report

/-- The text may stand in a report without quotes around it. -/
def Plain (text : String) : Prop := ∀ c ∈ text.toList, isPlain c = true

instance (text : String) : Decidable (Plain text) :=
  decidable_of_iff (text.toList.all isPlain = true) List.all_eq_true

theorem isPlain_of_isDigit {c : Char} (h : c.isDigit = true) : isPlain c = true := by
  simp only [isPlain, Bool.and_eq_true, bne_iff_ne]
  refine ⟨⟨⟨?_, ?_⟩, ?_⟩, ?_⟩ <;> rintro rfl <;> exact absurd h (by decide)

theorem Plain.append {s t : String} (hs : Plain s) (ht : Plain t) : Plain (s ++ t) := by
  intro c member
  rw [String.toList_append] at member
  exact (List.mem_append.mp member).elim (hs c) (ht c)

theorem plain_ofList {cs : List Char} (h : ∀ c ∈ cs, isPlain c = true) :
    Plain (String.ofList cs) := by
  intro c member
  rw [String.toList_ofList] at member
  exact h c member

theorem isPlain_of_mem_toDigits {n : Nat} {c : Char} (h : c ∈ Nat.toDigits 10 n) :
    isPlain c = true :=
  isPlain_of_isDigit (Nat.isDigit_of_mem_toDigits (by decide) (by decide) h)

theorem plain_repr (n : Nat) : Plain (Nat.repr n) := by
  rw [Nat.repr_eq_ofList_toDigits]
  exact plain_ofList fun c member => isPlain_of_mem_toDigits member

theorem plain_int (n : Int) : Plain (toString n) := by
  intro c member
  rw [Json.toList_toString_int, List.mem_append] at member
  rcases member with hsign | hdigit
  · split at hsign
    · rw [List.mem_singleton.mp hsign]
      rfl
    · cases hsign
  · exact isPlain_of_mem_toDigits hdigit

theorem isPlain_hexDigits (width n : Nat) : ∀ c ∈ Text.hexDigits width n, isPlain c = true := by
  have hdigit : ∀ k < 16, isPlain (Text.hexDigit k) = true := by decide
  induction width generalizing n with
  | zero => nofun
  | succ width ih =>
      intro c member
      rcases List.mem_append.mp member with hfirst | hlast
      · exact ih (n / 16) c hfirst
      · rw [List.mem_singleton.mp hlast]
        exact hdigit _ (Nat.mod_lt n (by decide))

theorem plain_hexOfBytes (b : List UInt8) : Plain (Value.hexOfBytes b) := by
  apply plain_ofList
  intro c member
  obtain ⟨byte, -, hc⟩ := List.mem_flatMap.mp member
  exact isPlain_hexDigits 2 byte.toNat c hc

end Report

/-! ### Floating-point numbers -/

namespace FloatStyle

/-- A number in positional form has digits, and a point at most. -/
theorem plain_positionalText (s : FloatStyle) (d : Decimal) : Plain (s.positionalText d) := by
  have hdigits : Plain (Nat.repr d.digits) := plain_repr d.digits
  have hzeros (n : Nat) : Plain (String.ofList (List.replicate n '0')) :=
    plain_ofList fun c member => by rw [List.eq_of_mem_replicate member]; rfl
  unfold positionalText
  simp only
  split
  · refine (hdigits.append (hzeros _)).append ?_
    split
    · decide
    · decide
  · split
    · refine ((plain_ofList fun c member => ?_).append ?_).append (plain_ofList fun c member => ?_)
      · exact hdigits c (List.mem_of_mem_take member)
      · decide
      · exact hdigits c (List.mem_of_mem_drop member)
    · refine (Plain.append ?_ (hzeros _)).append hdigits
      decide

theorem plain_signedText (f : BinaryFormat) (negative : Bool) (magnitude : Nat) :
    Plain (display.signedText f negative magnitude) := by
  have hmagnitude : Plain (display.magnitudeText f magnitude) := by
    unfold magnitudeText
    split
    · decide
    · split
      · decide
      · split
        · decide
        · exact display.plain_positionalText _
  unfold signedText
  refine Plain.append ?_ hmagnitude
  split
  · decide
  · decide

end FloatStyle

/-! ### Rows -/

namespace Value

/-- A value that is not a string displays plainly. -/
theorem plain_display {v : Value} (h : ∀ s, v ≠ string s) : Plain v.display := by
  cases v with
  | null => decide
  | bool b => cases b <;> decide
  | int32 n => exact plain_int n.toInt
  | int64 n => exact plain_int n.toInt
  | float32 x => exact FloatStyle.plain_signedText .single x.isNegative x.magnitude
  | float64 x => exact FloatStyle.plain_signedText .double x.isNegative x.magnitude
  | string s => exact absurd rfl (h s)
  | bytes b =>
      have hopen : Plain "X'" := by decide
      have hclose : Plain "'" := by decide
      exact (hopen.append (plain_hexOfBytes b)).append hclose
  | timestamp t =>
      have hopen : Plain "TIMESTAMP(" := by decide
      have hclose : Plain ")" := by decide
      exact (hopen.append (plain_int t.toInt)).append hclose

/-- The field that stands for a value. Only a string stands in quotes. -/
def field : Value → CsvField
  | null => ⟨false, ""⟩
  | string s => ⟨true, s⟩
  | v => ⟨false, v.display⟩

theorem readsAs_field (v : Value) : ReadsAs (csvField v) v.field := by
  cases v with
  | null => exact readsAs_of_isPlain nofun
  | string s => exact readsAs_quotedField s
  | bool | int32 | int64 | float32 | float64 | bytes | timestamp =>
      exact readsAs_of_isPlain (plain_display nofun)

end Value

namespace Report

/-- What follows the header of a report reads as the rows. Let every row have the same number of
values, at least one. Then there is one record for each row, in order, with one field for each
value: a string, whatever characters it has, is the content of a quoted field; a null is an empty
field without quotes; and any other value is a field without quotes that has its display text. -/
theorem csv_records_are_rows (output : JobOutput) {n : Nat} (hsome : 1 ≤ n)
    (hrows : ∀ row ∈ output.rows, row.length = n) :
    ∃ body records, csv output = csvLine output.columns ++ body ∧ readCsv body = some records ∧
      records = output.rows.map (·.map Value.field) ∧ records.length = output.rows.length ∧
      ∀ record ∈ records, record.length = n := by
  let lines : List (List String) := output.rows.map (·.map csvField)
  let records : List (List CsvField) := output.rows.map (·.map Value.field)
  have hread : List.Forall₂ (List.Forall₂ ReadsAs) lines records := by
    rw [List.forall₂_map_left_iff, List.forall₂_map_right_iff, List.forall₂_same]
    intro row _
    rw [List.forall₂_map_left_iff, List.forall₂_map_right_iff, List.forall₂_same]
    exact fun v _ => v.readsAs_field
  have hlines : ∀ texts ∈ lines, texts ≠ [] := by
    intro texts member hnone
    obtain ⟨row, hrow, rfl⟩ := List.mem_map.mp member
    rw [List.map_eq_nil_iff] at hnone
    rw [← hrows row hrow, hnone] at hsome
    cases hsome
  have hbody : csv output = csvLine output.columns ++ String.join (lines.map csvLine) := by
    simp only [csv, lines, List.map_map]
    rfl
  refine ⟨_, records, hbody, readCsv_lines hread hlines, rfl, List.length_map _, ?_⟩
  intro record member
  obtain ⟨row, hrow, rfl⟩ := List.mem_map.mp member
  rw [List.length_map]
  exact hrows row hrow

/-- Cells with commas, line breaks and quotes next to those around them, a null beside an empty
string, and numbers. -/
theorem csv_records_of_tricky_cells :
    let output : JobOutput := ⟨["a", "b", "c"],
      [[.string "x,\"", .null, .string ""], [.string "\"\"\n", .float64 (Double.ofInt (-1)),
        .string ",\r\n"]], none⟩
    (∀ row ∈ output.rows, row.length = 3) ∧
      ∃ body, csv output = "a,b,c\n" ++ body ∧
        readCsv body = some [[⟨true, "x,\""⟩, ⟨false, ""⟩, ⟨true, ""⟩],
          [⟨true, "\"\"\n"⟩, ⟨false, "-1"⟩, ⟨true, ",\r\n"⟩]] := by
  intro output
  have hrows : ∀ row ∈ output.rows, row.length = 3 := by decide
  obtain ⟨body, records, hbody, hread, hrecords, -⟩ :=
    csv_records_are_rows output (by decide) hrows
  refine ⟨hrows, body, ?_, ?_⟩
  · rw [hbody]
    rfl
  · rw [hread, hrecords]
    decide +kernel

end Report

end JoinEngine
