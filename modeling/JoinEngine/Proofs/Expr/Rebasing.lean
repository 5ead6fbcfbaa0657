import JoinEngine.Proofs.Expr.Columns
import JoinEngine.Proofs.Expr.Connectives
import Mathlib.Data.List.Basic

/-!
What an evaluation reads. The outcome of an expression depends on the values of the columns that
it refers to and on nothing else of the row, not even on its width. Moving the columns of a row
and the references of the expression by the same offset therefore leaves the outcome as it is,
failures included; with offset zero this says that rows agreeing on the columns give the same
outcome.
-/

namespace JoinEngine

namespace Expr

theorem shiftAll_eq_map (offset : Nat) (operands : List Expr) :
    shiftAll offset operands = operands.map (shiftColumns offset) := by
  induction operands with
  | nil => rfl
  | cons e rest ih => rw [shiftAll, ih, List.map_cons]

theorem references_shiftColumns (offset : Nat) (e : Expr) :
    (e.shiftColumns offset).references = e.references.map (· + offset) := by
  induction e using Expr.induct with
  | column index => rfl
  | literal value => rfl
  | compare op left right hleft hright
  | arithmetic op left right hleft hright
  | concat left right hleft hright =>
      rw [shiftColumns, references, references, hleft, hright, List.map_append]
  | and operands ih
  | or operands ih =>
      rw [shiftColumns, references, references, referencesOf_eq, referencesOf_eq,
        shiftAll_eq_map, List.flatMap_map, List.map_flatMap]
      exact List.flatMap_congr ih
  | not operand ih => exact ih
  | isNull operand ih => exact ih
  | isNotNull operand ih => exact ih

theorem insertAscending_map_add (offset n : Nat) (columns : List Nat) :
    insertAscending (n + offset) (columns.map (· + offset)) =
      (insertAscending n columns).map (· + offset) := by
  induction columns with
  | nil => rfl
  | cons m rest ih =>
      simp only [List.map_cons, insertAscending, Nat.add_lt_add_iff_right, Nat.add_right_cancel_iff,
        ih, apply_ite (List.map (· + offset))]

theorem columns_shiftColumns (offset : Nat) (e : Expr) :
    (e.shiftColumns offset).columns = e.columns.map (· + offset) := by
  unfold columns
  rw [references_shiftColumns]
  induction e.references with
  | nil => rfl
  | cons n rest ih =>
      rw [List.map_cons, List.foldr_cons, List.foldr_cons, ih, insertAscending_map_add]

theorem shiftColumns_shiftColumns (n m : Nat) (e : Expr) :
    (e.shiftColumns n).shiftColumns m = e.shiftColumns (n + m) := by
  induction e using Expr.induct with
  | column index => exact congrArg Expr.column (Nat.add_assoc index n m)
  | literal value => rfl
  | compare op left right hleft hright
  | arithmetic op left right hleft hright
  | concat left right hleft hright =>
      simp only [shiftColumns, hleft, hright]
  | and operands ih
  | or operands ih =>
      simp only [shiftColumns, shiftAll_eq_map, List.map_map]
      congr 1
      exact List.map_congr_left ih
  | not operand ih
  | isNull operand ih
  | isNotNull operand ih => simp only [shiftColumns, ih]

theorem shiftColumns_zero (e : Expr) : e.shiftColumns 0 = e := by
  induction e using Expr.induct with
  | column index => rfl
  | literal value => rfl
  | compare op left right hleft hright
  | arithmetic op left right hleft hright
  | concat left right hleft hright =>
      rw [shiftColumns, hleft, hright]
  | and operands ih
  | or operands ih =>
      rw [shiftColumns, shiftAll_eq_map, List.map_congr_left ih, List.map_id']
  | not operand ih
  | isNull operand ih
  | isNotNull operand ih => rw [shiftColumns, ih]

section

variable {row other : Row} {offset : Nat}

theorem map_holds_shiftAll {operands : List Expr}
    (h : ∀ e ∈ operands, (e.shiftColumns offset).evaluate other = e.evaluate row) :
    (shiftAll offset operands).map (holds other) = operands.map (holds row) := by
  rw [shiftAll_eq_map, List.map_map]
  exact List.map_congr_left fun e member => congrArg (· >>= Value.truth) (h e member)

/-- A shifted expression has on a row the value that the expression has on another row, if the
columns it refers to have moved by the offset from the one row to the other. -/
theorem evaluate_shiftColumns (e : Expr)
    (h : ∀ i ∈ e.references, i < row.length ∧ other[i + offset]? = row[i]?) :
    (e.shiftColumns offset).evaluate other = e.evaluate row := by
  induction e using Expr.induct with
  | column index =>
      -- the column is there, so no failure tells the widths of the rows
      obtain ⟨hindex, hmoved⟩ := h index (List.mem_singleton.mpr rfl)
      rw [shiftColumns, evaluate, evaluate, hmoved, List.getElem?_eq_getElem hindex]
  | literal value => rfl
  | compare op left right hleft hright
  | arithmetic op left right hleft hright
  | concat left right hleft hright =>
      rw [references, List.forall_mem_append] at h
      rw [shiftColumns, evaluate, evaluate, hleft h.1, hright h.2]
  | and operands ih =>
      rw [references, referencesOf_eq, List.forall_mem_flatMap] at h
      have hholds := map_holds_shiftAll fun e member => ih e member (h e member)
      rw [shiftColumns, evaluate, evaluate, allTrue_congr hholds]
  | or operands ih =>
      rw [references, referencesOf_eq, List.forall_mem_flatMap] at h
      have hholds := map_holds_shiftAll fun e member => ih e member (h e member)
      rw [shiftColumns, evaluate, evaluate, anyTrue_congr hholds]
  | not operand ih
  | isNull operand ih
  | isNotNull operand ih => rw [shiftColumns, evaluate, evaluate, ih h]

theorem holds_shiftColumns {e : Expr}
    (h : ∀ i ∈ e.references, i < row.length ∧ other[i + offset]? = row[i]?) :
    (e.shiftColumns offset).holds other = e.holds row :=
  congrArg (· >>= Value.truth) (evaluate_shiftColumns e h)

end

/-- Evaluation reads only the columns that the expression declares. On rows of any widths that
have these columns and agree on them it gives the same value and the same truth or the same
failure, which is never that of a missing column. -/
theorem evaluation_reads_columns {e : Expr} {row other : Row}
    (h : ∀ i ∈ e.columns, i < row.length ∧ i < other.length ∧ row[i]? = other[i]?) :
    (e.evaluate row = e.evaluate other ∧ e.holds row = e.holds other) ∧
      (InRange (e.evaluate row) ∧ InRange (e.holds row)) ∧
      InRange (e.evaluate other) ∧ InRange (e.holds other) := by
  have hsame : ∀ i ∈ e.references, i < other.length ∧ row[i + 0]? = other[i]? :=
    fun i member => (h i (mem_columns.mpr member)).2
  have hvalue := evaluate_shiftColumns e hsame
  have htruth := holds_shiftColumns hsame
  rw [shiftColumns_zero] at hvalue htruth
  have hrow : e.Within row.length := within_iff_columns.mpr fun i member => (h i member).1
  have hother : e.Within other.length := within_iff_columns.mpr fun i member => (h i member).2.1
  exact ⟨⟨hvalue, htruth⟩, ⟨hrow.evaluate, hrow.holds⟩, hother.evaluate, hother.holds⟩

/-- A NaN and the bytes it is compared with are all that counts: the comparison fails alike on
rows of different widths. -/
theorem evaluation_reads_two_columns :
    let e : Expr := .and [.isNotNull (.column 1), .compare .lt (.column 1) (.column 3)]
    let row : Row := [.int32 1, .float64 .nan, .string "a", .bytes [1]]
    let other : Row := [.null, .float64 .nan, .timestamp 3, .bytes [1], .bool true]
    (∀ i ∈ e.columns, i < row.length ∧ i < other.length ∧ row[i]? = other[i]?) ∧
      e.holds row = .error (.typeMismatch "DOUBLE" "VARBINARY") ∧
      e.holds other = .error (.typeMismatch "DOUBLE" "VARBINARY") := by
  intro e row other
  have hcolumns : ∀ i ∈ e.columns, i < row.length ∧ i < other.length ∧ row[i]? = other[i]? := by
    decide
  have hrow : e.holds row = .error (.typeMismatch "DOUBLE" "VARBINARY") := by rfl
  exact ⟨hcolumns, hrow, (evaluation_reads_columns hcolumns).1.2.symm.trans hrow⟩

/-- Rebasing keeps the meaning. A shifted expression has behind as many other values the value
and the truth, or the failure, that the expression has on the row itself; its columns are those
of the expression, each moved by the offset; and offsets add up. -/
theorem rebased_keeps_meaning {e : Expr} {row : Row} (h : ∀ i ∈ e.columns, i < row.length)
    (ahead : Row) :
    ((e.shiftColumns ahead.length).evaluate (ahead ++ row) = e.evaluate row ∧
      (e.shiftColumns ahead.length).holds (ahead ++ row) = e.holds row) ∧
    (∀ offset, (e.shiftColumns offset).columns = e.columns.map (· + offset)) ∧
    ∀ n m, (e.shiftColumns n).shiftColumns m = e.shiftColumns (n + m) := by
  have hmoved : ∀ i ∈ e.references,
      i < row.length ∧ (ahead ++ row)[i + ahead.length]? = row[i]? := by
    intro i member
    refine ⟨h i (mem_columns.mpr member), ?_⟩
    rw [List.getElem?_append_right (Nat.le_add_left _ _), Nat.add_sub_cancel]
  exact ⟨⟨evaluate_shiftColumns e hmoved, holds_shiftColumns hmoved⟩,
    fun offset => columns_shiftColumns offset e, fun n m => shiftColumns_shiftColumns n m e⟩

/-- A predicate used as a value, with its columns behind two others. -/
theorem rebased_behind_two_values :
    let e : Expr := .concat (.compare .lt (.column 0) (.column 2)) (.column 1)
    let row : Row := [.int32 1, .string "x", .int64 2]
    let ahead : Row := [.null, .string "a"]
    (∀ i ∈ e.columns, i < row.length) ∧
      (e.shiftColumns 2).evaluate (ahead ++ row) = .ok (.string "truex") ∧
      (e.shiftColumns 2).columns = [2, 3, 4] := by
  intro e row ahead
  have hcolumns : ∀ i ∈ e.columns, i < row.length := by decide
  obtain ⟨⟨hvalue, -⟩, hshifted, -⟩ := rebased_keeps_meaning hcolumns ahead
  exact ⟨hcolumns, hvalue.trans rfl, hshifted 2⟩

end Expr

end JoinEngine
