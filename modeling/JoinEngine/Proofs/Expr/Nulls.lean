import JoinEngine.Proofs.Outcome
import JoinEngine.Proofs.Value.Comparison

/-!
Nulls in scalar expressions. An operation on values gives null exactly if one of its arguments is
null, whatever else is wrong with them: a null wins over a type that does not fit, over a zero
divisor and over a result that is too large. What it does not win over is a failure of an operand,
which has no value to give. So a tree of operations that has a value is null exactly if one of its
leaves is, and a comparison of two such trees is unknown exactly then.
-/

namespace JoinEngine

namespace Value

variable {a b v : Value}

theorem isNull_arithmetic {op : ArithmeticOp} (h : a.arithmetic op b = .ok v) :
    v.isNull = (a.isNull || b.isNull) := by
  unfold arithmetic at h
  split at h
  next =>
    obtain rfl := Except.ok.inj h
    rfl
  next =>
    obtain rfl := Except.ok.inj h
    exact (Bool.or_true _).symm
  next =>
    split at h
    · obtain rfl := Except.ok.inj h
      rfl
    · cases h
  next hleft hright _ =>
    have hargs : (a.isNull || b.isNull) = false := by
      rw [Bool.or_eq_false_iff, ← Bool.not_eq_true, ← Bool.not_eq_true, isNull_iff, isNull_iff]
      exact ⟨hleft, hright⟩
    rw [hargs]
    -- two integers give a wide integer, two other numbers a double
    split at h
    · split at h
      · obtain rfl := Except.ok.inj h
        rfl
      · cases h
    · split at h
      · split at h
        · cases h
        · obtain rfl := Except.ok.inj h
          rfl
      · cases h

theorem isNull_concat (a b : Value) : (a.concat b).isNull = (a.isNull || b.isNull) := by
  unfold concat
  cases a.isNull || b.isNull <;> rfl

end Value

namespace Expr

/-- Expressions made of columns and literals by arithmetic and by concatenation, at any depth. -/
inductive Scalar : Expr → Prop
  | column (index : Nat) : Scalar (.column index)
  | literal (v : Value) : Scalar (.literal v)
  | arithmetic (op : ArithmeticOp) {left right : Expr} (hleft : Scalar left)
      (hright : Scalar right) : Scalar (.arithmetic op left right)
  | concat {left right : Expr} (hleft : Scalar left) (hright : Scalar right) :
      Scalar (.concat left right)

/-- Some leaf of the expression is null: a literal, or the value of a column it refers to. -/
inductive HasNullLeaf (row : Row) : Expr → Prop
  | column {index : Nat} (hcolumn : row[index]? = some .null) : HasNullLeaf row (.column index)
  | literal : HasNullLeaf row (.literal .null)
  | arithmeticLeft {op : ArithmeticOp} {left right : Expr} (h : HasNullLeaf row left) :
      HasNullLeaf row (.arithmetic op left right)
  | arithmeticRight {op : ArithmeticOp} {left right : Expr} (h : HasNullLeaf row right) :
      HasNullLeaf row (.arithmetic op left right)
  | concatLeft {left right : Expr} (h : HasNullLeaf row left) :
      HasNullLeaf row (.concat left right)
  | concatRight {left right : Expr} (h : HasNullLeaf row right) :
      HasNullLeaf row (.concat left right)

section

variable {row : Row} {left right : Expr}

theorem hasNullLeaf_column {index : Nat} :
    (Expr.column index).HasNullLeaf row ↔ row[index]? = some .null :=
  ⟨fun | .column hcolumn => hcolumn, .column⟩

theorem hasNullLeaf_literal {v : Value} : (Expr.literal v).HasNullLeaf row ↔ v = .null :=
  ⟨fun | .literal => rfl, fun hv => hv ▸ .literal⟩

theorem hasNullLeaf_arithmetic {op : ArithmeticOp} :
    (Expr.arithmetic op left right).HasNullLeaf row ↔
      left.HasNullLeaf row ∨ right.HasNullLeaf row :=
  ⟨fun | .arithmeticLeft h => Or.inl h | .arithmeticRight h => Or.inr h,
    fun h => h.elim .arithmeticLeft .arithmeticRight⟩

theorem hasNullLeaf_concat :
    (Expr.concat left right).HasNullLeaf row ↔
      left.HasNullLeaf row ∨ right.HasNullLeaf row :=
  ⟨fun | .concatLeft h => Or.inl h | .concatRight h => Or.inr h,
    fun h => h.elim .concatLeft .concatRight⟩

/-- A scalar expression that has a value is null exactly if one of its leaves is. -/
theorem Scalar.isNull_iff {e : Expr} (h : e.Scalar) {v : Value} (hv : e.evaluate row = .ok v) :
    v.isNull = true ↔ e.HasNullLeaf row := by
  induction h generalizing v with
  | column index =>
      rw [hasNullLeaf_column, Value.isNull_iff]
      unfold evaluate at hv
      cases hrow : row[index]? with
      | none => simp [hrow] at hv
      | some w =>
          simp only [hrow] at hv
          obtain rfl := Except.ok.inj hv
          exact Option.some_inj.symm
  | literal w =>
      obtain rfl := Except.ok.inj hv
      rw [hasNullLeaf_literal, Value.isNull_iff]
  | arithmetic op _ _ ihleft ihright =>
      rw [evaluate] at hv
      obtain ⟨a, ha, hv⟩ := exists_of_bind_eq_ok hv
      obtain ⟨b, hb, hv⟩ := exists_of_bind_eq_ok hv
      rw [Value.isNull_arithmetic hv, Bool.or_eq_true, hasNullLeaf_arithmetic, ihleft ha,
        ihright hb]
  | concat _ _ ihleft ihright =>
      rw [evaluate] at hv
      obtain ⟨a, ha, hv⟩ := exists_of_bind_eq_ok hv
      obtain ⟨b, hb, hv⟩ := exists_of_bind_eq_ok hv
      obtain rfl := Except.ok.inj hv
      rw [Value.isNull_concat, Bool.or_eq_true, hasNullLeaf_concat, ihleft ha, ihright hb]

/-- Null propagates exactly. A scalar expression that has a value on a row is null exactly if one
of its leaves is null; and a comparison of two scalar expressions that has a truth is unknown
exactly if a leaf on either side is null. -/
theorem null_iff_null_leaf (hleft : left.Scalar) (hright : right.Scalar) :
    (∀ v, left.evaluate row = .ok v → (v = .null ↔ left.HasNullLeaf row)) ∧
      ∀ op t, (Expr.compare op left right).holds row = .ok t →
        (t = .unknown ↔ left.HasNullLeaf row ∨ right.HasNullLeaf row) := by
  constructor
  · intro v hv
    rw [← Value.isNull_iff]
    exact hleft.isNull_iff hv
  · intro op t ht
    rw [holds_compare] at ht
    obtain ⟨a, ha, ht⟩ := exists_of_bind_eq_ok ht
    obtain ⟨b, hb, ht⟩ := exists_of_bind_eq_ok ht
    calc t = .unknown ↔ a.compareBy op b = .ok .unknown := by rw [ht, Except.ok.injEq]
      _ ↔ a.isNull = true ∨ b.isNull = true := by
        rw [Value.compareBy_eq_unknown_iff, Value.isNull_iff, Value.isNull_iff]
      _ ↔ left.HasNullLeaf row ∨ right.HasNullLeaf row := by
        rw [hleft.isNull_iff ha, hright.isNull_iff hb]

end

/-- A null divided by zero is null, a text made of a sum is not, and the order of the two is
unknown, although a text and a number would have none. -/
theorem null_of_null_quotient :
    let row : Row := [.null, .int32 0, .string "a"]
    let quotient : Expr := .arithmetic .div (.column 0) (.column 1)
    let text : Expr := .concat (.column 2) (.arithmetic .add (.column 1) (.literal (.int64 7)))
    quotient.Scalar ∧ text.Scalar ∧ quotient.HasNullLeaf row ∧ ¬ text.HasNullLeaf row ∧
      quotient.evaluate row = .ok .null ∧ text.evaluate row = .ok (.string "a7") ∧
      (Expr.compare .lt text quotient).holds row = .ok .unknown := by
  intro row quotient text
  have hquotient : quotient.Scalar := .arithmetic .div (.column 0) (.column 1)
  have htext : text.Scalar := .concat (.column 2) (.arithmetic .add (.column 1) (.literal _))
  have hnull : quotient.HasNullLeaf row := .arithmeticLeft (.column rfl)
  have hvalue : text.evaluate row = .ok (.string "a7") := by rfl
  obtain ⟨v, hv⟩ : ∃ v, quotient.evaluate row = .ok v := ⟨_, rfl⟩
  obtain ⟨t, ht⟩ : ∃ t, (Expr.compare .lt text quotient).holds row = .ok t := ⟨_, rfl⟩
  obtain rfl := ((null_iff_null_leaf hquotient htext).1 v hv).mpr hnull
  obtain ⟨hdefinite, hunknown⟩ :
      (∀ w, text.evaluate row = .ok w → (w = .null ↔ text.HasNullLeaf row)) ∧ _ :=
    null_iff_null_leaf htext hquotient
  obtain rfl := (hunknown .lt t ht).mpr (Or.inr hnull)
  have hleaves : ¬ text.HasNullLeaf row := fun h => nomatch (hdefinite _ hvalue).mpr h
  exact ⟨hquotient, htext, hnull, hleaves, hv, hvalue, ht⟩

end Expr

end JoinEngine
