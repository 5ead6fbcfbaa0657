import JoinEngine.Condition.Split
import JoinEngine.Exec.Projection

/-!
Columns and the rows that have them. An expression that refers only to columns of a row never
fails for a missing column, whatever else it may fail for. The columns are checked once, when a
condition is split or a projection validated; what is split off a condition refers to no others.
-/

namespace JoinEngine

def JoinError.IsNoColumn (e : JoinError) : Prop :=
  ∃ column arity, e = .evaluation (.noColumn column arity)

def InRange {α : Type} (outcome : Except JoinError α) : Prop :=
  ∀ e, outcome = .error e → ¬ e.IsNoColumn

section

variable {α β : Type}

theorem inRange_ok (a : α) : InRange (.ok a) :=
  fun _ he => nomatch he

theorem inRange_error {e : JoinError} (h : ¬ e.IsNoColumn) :
    InRange (.error e : Except JoinError α) := by
  intro f hf
  obtain rfl := Except.error.inj hf
  exact h

theorem InRange.bind {first : Except JoinError α} {next : α → Except JoinError β}
    (hfirst : InRange first) (hnext : ∀ a, InRange (next a)) : InRange (first >>= next) := by
  cases first with
  | error e => exact inRange_error (hfirst e rfl)
  | ok a => exact hnext a

theorem inRange_mapM {f : α → Except JoinError β} {items : List α}
    (h : ∀ a ∈ items, InRange (f a)) : InRange (items.mapM f) := by
  induction items with
  | nil => exact inRange_ok []
  | cons a rest ih =>
      rw [List.mapM_cons]
      have hrest := ih fun b member => h b (List.mem_cons_of_mem a member)
      exact (h a List.mem_cons_self).bind fun _ => hrest.bind fun _ => inRange_ok _

end

theorem find?_eq_none_iff_lt {columns : List Nat} {width : Nat} :
    columns.find? (width ≤ ·) = none ↔ ∀ column ∈ columns, column < width := by
  simp [List.find?_eq_none]

namespace Value

theorem inRange_truth (v : Value) : InRange v.truth := by
  cases v <;> first | exact inRange_ok _ | exact inRange_error (by simp [JoinError.IsNoColumn])

theorem inRange_compareBy (op : CompareOp) (a b : Value) : InRange (a.compareBy op b) := by
  unfold compareBy
  split
  · exact inRange_ok _
  · cases a.relate b with
    | ordered o => exact inRange_ok _
    | unordered => exact inRange_ok _
    | incompatible =>
        cases op <;>
          first | exact inRange_ok _ | exact inRange_error (by simp [JoinError.IsNoColumn])

theorem inRange_arithmetic (op : ArithmeticOp) (a b : Value) : InRange (a.arithmetic op b) := by
  have hfault : ¬ (JoinError.evaluation op.integerFault).IsNoColumn := by
    cases op <;> simp [JoinError.IsNoColumn, ArithmeticOp.integerFault, ArithmeticOp.divides]
  unfold arithmetic
  repeat' split
  all_goals
    first
    | exact inRange_ok _
    | exact inRange_error hfault
    | exact inRange_error (by simp [JoinError.IsNoColumn])

end Value

namespace Expr

/-- Induction on an expression, with the hypothesis for all operands of a connective. -/
theorem induct {motive : Expr → Prop} (column : ∀ index, motive (.column index))
    (literal : ∀ value, motive (.literal value))
    (compare : ∀ op left right, motive left → motive right → motive (.compare op left right))
    (and : ∀ operands, (∀ e ∈ operands, motive e) → motive (.and operands))
    (or : ∀ operands, (∀ e ∈ operands, motive e) → motive (.or operands))
    (not : ∀ operand, motive operand → motive (.not operand))
    (isNull : ∀ operand, motive operand → motive (.isNull operand))
    (isNotNull : ∀ operand, motive operand → motive (.isNotNull operand))
    (arithmetic : ∀ op left right, motive left → motive right →
      motive (.arithmetic op left right))
    (concat : ∀ left right, motive left → motive right → motive (.concat left right))
    (e : Expr) : motive e :=
  @Expr.rec motive (fun operands => ∀ e ∈ operands, motive e)
    column literal compare and or not isNull isNotNull arithmetic concat
    (fun _ member => nomatch member)
    (fun _ _ hfirst hrest => List.forall_mem_cons.mpr ⟨hfirst, hrest⟩) e

theorem referencesOf_eq (operands : List Expr) :
    referencesOf operands = operands.flatMap references := by
  induction operands with
  | nil => rfl
  | cons e rest ih => rw [referencesOf, ih, List.flatMap_cons]

theorem mem_insertAscending {i n : Nat} {columns : List Nat} :
    i ∈ insertAscending n columns ↔ i = n ∨ i ∈ columns := by
  induction columns with
  | nil => simp [insertAscending]
  | cons m rest ih =>
      unfold insertAscending
      split
      · simp
      · split
        next heq => simp [heq]
        next => simp only [List.mem_cons, ih, or_left_comm]

theorem mem_columns {i : Nat} {e : Expr} : i ∈ e.columns ↔ i ∈ e.references := by
  unfold columns
  induction e.references with
  | nil => simp
  | cons n rest ih => rw [List.foldr_cons, mem_insertAscending, ih, List.mem_cons]

/-- All columns that the expression refers to are below the width. -/
def Within (e : Expr) (width : Nat) : Prop := ∀ i ∈ e.references, i < width

theorem within_iff_columns {e : Expr} {width : Nat} :
    e.Within width ↔ ∀ column ∈ e.columns, column < width := by
  simp only [Within, mem_columns]

mutual

/-- An expression within the width of a row finds all its columns. -/
theorem inRange_evaluate {row : Row} (e : Expr) (h : ∀ i ∈ e.references, i < row.length) :
    InRange (e.evaluate row) := by
  cases e with
  | column index =>
      have hindex : index < row.length := h index (List.mem_singleton.mpr rfl)
      rw [evaluate, List.getElem?_eq_getElem hindex]
      exact inRange_ok _
  | literal value => exact inRange_ok value
  | compare op left right =>
      rw [references, List.forall_mem_append] at h
      rw [evaluate]
      refine (inRange_evaluate left h.1).bind fun a => (inRange_evaluate right h.2).bind fun b => ?_
      exact (Value.inRange_compareBy op a b).bind fun _ => inRange_ok _
  | and operands =>
      rw [evaluate]
      exact (inRange_allTrue operands h).bind fun _ => inRange_ok _
  | or operands =>
      rw [evaluate]
      exact (inRange_anyTrue operands h).bind fun _ => inRange_ok _
  | not operand =>
      rw [evaluate]
      exact (inRange_evaluate operand h).bind fun v => v.inRange_truth.bind fun _ => inRange_ok _
  | isNull operand =>
      rw [evaluate]
      exact (inRange_evaluate operand h).bind fun _ => inRange_ok _
  | isNotNull operand =>
      rw [evaluate]
      exact (inRange_evaluate operand h).bind fun _ => inRange_ok _
  | arithmetic op left right =>
      rw [references, List.forall_mem_append] at h
      rw [evaluate]
      refine (inRange_evaluate left h.1).bind fun a => (inRange_evaluate right h.2).bind fun b => ?_
      exact Value.inRange_arithmetic op a b
  | concat left right =>
      rw [references, List.forall_mem_append] at h
      rw [evaluate]
      refine (inRange_evaluate left h.1).bind fun a => (inRange_evaluate right h.2).bind fun b => ?_
      exact inRange_ok _

theorem inRange_allTrue {row : Row} (operands : List Expr)
    (h : ∀ i ∈ referencesOf operands, i < row.length) : InRange (allTrue row operands) := by
  cases operands with
  | nil => exact inRange_ok _
  | cons e rest =>
      rw [referencesOf, List.forall_mem_append] at h
      rw [allTrue]
      refine (inRange_evaluate e h.1).bind fun v => v.inRange_truth.bind fun t => ?_
      cases t with
      | false => exact inRange_ok _
      | true | unknown => exact (inRange_allTrue rest h.2).bind fun _ => inRange_ok _

theorem inRange_anyTrue {row : Row} (operands : List Expr)
    (h : ∀ i ∈ referencesOf operands, i < row.length) : InRange (anyTrue row operands) := by
  cases operands with
  | nil => exact inRange_ok _
  | cons e rest =>
      rw [referencesOf, List.forall_mem_append] at h
      rw [anyTrue]
      refine (inRange_evaluate e h.1).bind fun v => v.inRange_truth.bind fun t => ?_
      cases t with
      | true => exact inRange_ok _
      | false | unknown => exact (inRange_anyTrue rest h.2).bind fun _ => inRange_ok _

end

theorem Within.evaluate {e : Expr} {row : Row} (h : e.Within row.length) :
    InRange (e.evaluate row) :=
  inRange_evaluate e h

theorem Within.holds {e : Expr} {row : Row} (h : e.Within row.length) : InRange (e.holds row) :=
  h.evaluate.bind fun v => v.inRange_truth

mutual

/-- The conjuncts of a condition refer to its columns, in order. -/
theorem references_conjuncts (e : Expr) : e.conjuncts.flatMap references = e.references := by
  cases e with
  | and operands => rw [conjuncts, references_conjunctsOf, references, referencesOf_eq]
  | _ => exact List.flatMap_singleton _ _

theorem references_conjunctsOf (operands : List Expr) :
    (conjunctsOf operands).flatMap references = operands.flatMap references := by
  cases operands with
  | nil => rfl
  | cons e rest =>
      rw [conjunctsOf, List.flatMap_append, references_conjuncts e, references_conjunctsOf rest,
        List.flatMap_cons]

end

theorem references_conjunction (operands : List Expr) :
    (conjunction operands).references = operands.flatMap references := by
  unfold conjunction
  split
  · exact (List.flatMap_singleton _ _).symm
  · exact referencesOf_eq operands

end Expr

namespace JoinDescriptor

/-- The predicates refer only to columns of the joined row. -/
structure Within (d : JoinDescriptor) : Prop where
  condition : d.condition.Within d.outputArity
  residual : ∀ residual, d.residual = some residual → residual.Within d.outputArity

/-- A condition is split exactly if it refers only to columns of the joined row. -/
theorem exists_classify_iff {condition : Expr} {leftArity rightArity : Nat} :
    (∃ d, classify condition leftArity rightArity = .ok d) ↔
      condition.Within (leftArity + rightArity) := by
  rw [Expr.within_iff_columns, ← find?_eq_none_iff_lt]
  simp only [classify]
  cases condition.columns.find? (leftArity + rightArity ≤ ·) <;> simp

/-- What is left of a condition within a width is within it. -/
theorem within_of_residualOf {condition residual : Expr} {width : Nat} {keep : Expr → Bool}
    (h : condition.Within width)
    (hresidual : residualOf (condition.conjuncts.filter keep) = some residual) :
    residual.Within width := by
  unfold residualOf at hresidual
  split at hresidual
  · cases hresidual
  · obtain rfl := Option.some.inj hresidual
    intro i member
    rw [Expr.references_conjunction] at member
    obtain ⟨e, hkept, hi⟩ := List.mem_flatMap.mp member
    have hconjunct : i ∈ condition.conjuncts.flatMap Expr.references :=
      List.mem_flatMap.mpr ⟨e, (List.mem_filter.mp hkept).1, hi⟩
    rw [Expr.references_conjuncts] at hconjunct
    exact h i hconjunct

theorem within_of_classify {condition : Expr} {leftArity rightArity : Nat} {d : JoinDescriptor}
    (h : classify condition leftArity rightArity = .ok d) : d.Within := by
  unfold classify at h
  simp only at h
  split at h
  · cases h
  next hcolumns =>
    have hcondition : condition.Within (leftArity + rightArity) :=
      Expr.within_iff_columns.mpr (find?_eq_none_iff_lt.mp hcolumns)
    obtain rfl := Except.ok.inj h
    exact ⟨hcondition, fun residual hresidual => within_of_residualOf hcondition hresidual⟩

end JoinDescriptor

namespace Projection

def Within (p : Projection) (width : Nat) : Prop :=
  ∀ e ∈ p.filter.toList ++ p.exprs, e.Within width

theorem within_iff_columns {p : Projection} {width : Nat} :
    p.Within width ↔ ∀ column ∈ p.columns, column < width := by
  simp only [Within, columns, Expr.within_iff_columns, List.mem_flatMap]
  exact ⟨fun h column ⟨e, he, hcolumn⟩ => h e he column hcolumn,
    fun h e he column hcolumn => h column ⟨e, he, hcolumn⟩⟩

theorem validate_eq_ok_iff {p : Projection} {width : Nat} :
    p.validate width = .ok () ↔ ∀ column ∈ p.columns, column < width := by
  rw [← find?_eq_none_iff_lt]
  unfold validate
  cases p.columns.find? (width ≤ ·) <;> simp

end Projection

end JoinEngine
