import JoinEngine.Proofs.Expr.Conjunction
import Mathlib.Data.List.Forall2

/-!
Rows with some of their nulls filled in. A null among the arguments of an operation makes its
result null, and an unknown operand leaves a conjunction or a disjunction open at most. So an
expression that does not ask whether something is null can only become more definite: an answer
that it has given stays, whatever the nulls are filled with. On the filled row it may still fail,
where an operation is given a value it cannot take.
-/

namespace JoinEngine

/-- The second value is the first, unless the first was blank. -/
def Fills {α : Type} (blank a b : α) : Prop := a = blank ∨ a = b

/-- Where both outcomes are values, the second fills in the first. -/
def FillsIn {α : Type} (blank : α) (first second : Except JoinError α) : Prop :=
  ∀ a b, first = .ok a → second = .ok b → Fills blank a b

section

variable {α β : Type} {blank : α} {empty : β}

theorem fillsIn_ok {a b : α} (h : Fills blank a b) : FillsIn blank (.ok a) (.ok b) := by
  rintro _ _ ⟨⟩ ⟨⟩
  exact h

theorem fillsIn_refl (outcome : Except JoinError α) : FillsIn blank outcome outcome :=
  fun _ _ ha hb => Or.inr (Except.ok.inj (ha.symm.trans hb))

theorem fillsIn_blank (outcome : Except JoinError α) : FillsIn blank (.ok blank) outcome := by
  rintro _ _ ⟨⟩ _
  exact Or.inl rfl

theorem FillsIn.bind {first second : Except JoinError α} {next other : α → Except JoinError β}
    (h : FillsIn blank first second)
    (hnext : ∀ a b, Fills blank a b → FillsIn empty (next a) (other b)) :
    FillsIn empty (first >>= next) (second >>= other) := by
  cases first with
  | error e => exact fun _ _ ha => nomatch ha
  | ok a =>
      cases second with
      | error e => exact fun _ _ _ hb => nomatch hb
      | ok b => exact hnext a b (h a b rfl rfl)

theorem FillsIn.map {first second : Except JoinError α} {f g : α → β}
    (h : FillsIn blank first second) (hmap : ∀ a b, Fills blank a b → Fills empty (f a) (g b)) :
    FillsIn empty (first.map f) (second.map g) :=
  FillsIn.bind h fun a b hab => fillsIn_ok (hmap a b hab)

end

namespace Ternary

variable {t t' u u' : Ternary}

theorem fills_not (h : Fills .unknown t t') : Fills .unknown t.not t'.not := by
  rcases h with rfl | rfl
  · exact Or.inl rfl
  · exact Or.inr rfl

theorem fills_toValue (h : Fills .unknown t t') : Fills .null t.toValue t'.toValue := by
  rcases h with rfl | rfl
  · exact Or.inl rfl
  · exact Or.inr rfl

theorem fills_and (ht : Fills .unknown t t') (hu : Fills .unknown u u') :
    Fills .unknown (t.and u) (t'.and u') := by
  -- an unknown operand leaves the conjunction unknown, unless the other one is false
  rcases ht with rfl | rfl
  · rcases hu with rfl | rfl
    · exact Or.inl rfl
    · cases u with
      | false => exact Or.inr (by cases t' <;> rfl)
      | true | unknown => exact Or.inl rfl
  · rcases hu with rfl | rfl
    · cases t with
      | false => exact Or.inr rfl
      | true | unknown => exact Or.inl rfl
    · exact Or.inr rfl

theorem andThen_of_ne (h : t ≠ .false) (second : Except JoinError Ternary) :
    andThen (.ok t) second = second.map t.and := by
  cases t with
  | false => exact absurd rfl h
  | true | unknown => rfl

/-- An operand that has become false settles a conjunction, which was false or open before. -/
theorem fillsIn_andThen {first first' second second' : Except JoinError Ternary}
    (hfirst : FillsIn .unknown first first') (hsecond : FillsIn .unknown second second') :
    FillsIn .unknown (andThen first second) (andThen first' second') := by
  rcases first with e | t
  · exact fun _ _ ha => nomatch ha
  rcases first' with e | t'
  · exact fun _ _ _ hb => nomatch hb
  have ht : Fills .unknown t t' := hfirst t t' rfl rfl
  by_cases hsettled : t' = .false
  · subst hsettled
    rcases second with e | u
    · cases t with
      | false => exact fillsIn_refl _
      | true | unknown => exact fun _ _ ha => nomatch ha
    · have hand : andThen (.ok t) (.ok u) = .ok (t.and u) := by
        cases t <;> rfl
      have hsame : Fills .unknown u u := Or.inr rfl
      rw [hand]
      exact fillsIn_ok (fills_and ht hsame)
  · have hopen : t ≠ .false := by
      rcases ht with rfl | rfl
      · exact Ternary.noConfusion
      · exact hsettled
    rw [andThen_of_ne hopen, andThen_of_ne hsettled]
    exact hsecond.map fun _ _ => fills_and ht

end Ternary

namespace Value

variable {a a' b b' : Value}

theorem fillsIn_truth (h : Fills .null a a') : FillsIn .unknown a.truth a'.truth := by
  rcases h with rfl | rfl
  · exact fillsIn_blank _
  · exact fillsIn_refl _

theorem fillsIn_compareBy (op : CompareOp) (ha : Fills .null a a') (hb : Fills .null b b') :
    FillsIn .unknown (a.compareBy op b) (a'.compareBy op b') := by
  rcases ha with rfl | rfl
  · exact fillsIn_blank _
  rcases hb with rfl | rfl
  · have hopen : a.compareBy op .null = .ok .unknown := by
      unfold compareBy
      rw [if_pos (by simp [isNull])]
    rw [hopen]
    exact fillsIn_blank _
  · exact fillsIn_refl _

theorem fillsIn_arithmetic (op : ArithmeticOp) (ha : Fills .null a a') (hb : Fills .null b b') :
    FillsIn .null (a.arithmetic op b) (a'.arithmetic op b') := by
  rcases ha with rfl | rfl
  · exact fillsIn_blank _
  rcases hb with rfl | rfl
  · have hopen : a.arithmetic op .null = .ok .null := by
      cases a <;> rfl
    rw [hopen]
    exact fillsIn_blank _
  · exact fillsIn_refl _

theorem fills_concat (ha : Fills .null a a') (hb : Fills .null b b') :
    Fills .null (a.concat b) (a'.concat b') := by
  rcases ha with rfl | rfl
  · exact Or.inl rfl
  rcases hb with rfl | rfl
  · left
    unfold concat
    rw [if_pos (by simp [isNull])]
  · exact Or.inr rfl

end Value

/-- The rows agree but for values that are null in the first. -/
def Row.FilledBy (row filled : Row) : Prop := List.Forall₂ (Fills .null) row filled

namespace Expr

mutual

/-- Whether the expression asks somewhere if a value is null. -/
def testsNull : Expr → Bool
  | .column _ => false
  | .literal _ => false
  | .compare _ left right => left.testsNull || right.testsNull
  | .and operands => anyTestsNull operands
  | .or operands => anyTestsNull operands
  | .not operand => operand.testsNull
  | .isNull _ => true
  | .isNotNull _ => true
  | .arithmetic _ left right => left.testsNull || right.testsNull
  | .concat left right => left.testsNull || right.testsNull

def anyTestsNull : List Expr → Bool
  | [] => false
  | e :: rest => e.testsNull || anyTestsNull rest

end

section

variable {row filled : Row}

theorem fillsIn_holds {e : Expr} (h : FillsIn .null (e.evaluate row) (e.evaluate filled)) :
    FillsIn .unknown (e.holds row) (e.holds filled) :=
  h.bind fun _ _ => Value.fillsIn_truth

theorem fillsIn_allTrue {operands : List Expr}
    (h : ∀ e ∈ operands, FillsIn .unknown (e.holds row) (e.holds filled)) :
    FillsIn .unknown (allTrue row operands) (allTrue filled operands) := by
  induction operands with
  | nil => exact fillsIn_refl _
  | cons e rest ih =>
      obtain ⟨hfirst, hrest⟩ := List.forall_mem_cons.mp h
      rw [allTrue_cons, allTrue_cons]
      exact Ternary.fillsIn_andThen hfirst (ih hrest)

theorem fillsIn_anyTrue {operands : List Expr}
    (h : ∀ e ∈ operands, FillsIn .unknown (e.holds row) (e.holds filled)) :
    FillsIn .unknown (anyTrue row operands) (anyTrue filled operands) := by
  rw [anyTrue_eq_allTrue_not, anyTrue_eq_allTrue_not]
  refine (fillsIn_allTrue ?_).map fun _ _ => Ternary.fills_not
  rw [List.forall_mem_map]
  intro e member
  rw [holds_not, holds_not]
  exact (h e member).map fun _ _ => Ternary.fills_not

theorem fillsIn_column (h : row.FilledBy filled) (index : Nat) :
    FillsIn .null ((Expr.column index).evaluate row) ((Expr.column index).evaluate filled) := by
  have hvalue : ∀ v w, row[index]? = some v → filled[index]? = some w → Fills .null v w := by
    intro v w hv hw
    obtain ⟨hindex, rfl⟩ := List.getElem?_eq_some_iff.mp hv
    obtain ⟨hother, rfl⟩ := List.getElem?_eq_some_iff.mp hw
    exact h.get hindex hother
  unfold evaluate
  cases hv : row[index]? with
  | none => exact fun _ _ ha => nomatch ha
  | some v =>
      cases hw : filled[index]? with
      | none => exact fun _ _ _ hb => nomatch hb
      | some w => exact fillsIn_ok (hvalue v w hv hw)

mutual

/-- Filling in nulls fills in the value of an expression that does not test for them. -/
theorem fillsIn_evaluate (h : row.FilledBy filled) (e : Expr) (hfree : e.testsNull = false) :
    FillsIn .null (e.evaluate row) (e.evaluate filled) := by
  cases e with
  | column index => exact fillsIn_column h index
  | literal value => exact fillsIn_refl _
  | compare op left right =>
      obtain ⟨hleft, hright⟩ := Bool.or_eq_false_iff.mp hfree
      rw [evaluate, evaluate]
      refine (fillsIn_evaluate h left hleft).bind fun _ _ ha => ?_
      refine (fillsIn_evaluate h right hright).bind fun _ _ hb => ?_
      exact (Value.fillsIn_compareBy op ha hb).map fun _ _ => Ternary.fills_toValue
  | and operands =>
      rw [evaluate, evaluate]
      refine (fillsIn_allTrue fun e member => ?_).map fun _ _ => Ternary.fills_toValue
      exact fillsIn_holds (fillsIn_evaluateAll h operands hfree e member)
  | or operands =>
      rw [evaluate, evaluate]
      refine (fillsIn_anyTrue fun e member => ?_).map fun _ _ => Ternary.fills_toValue
      exact fillsIn_holds (fillsIn_evaluateAll h operands hfree e member)
  | not operand =>
      rw [evaluate, evaluate]
      refine (fillsIn_evaluate h operand hfree).bind fun _ _ hv => ?_
      exact (Value.fillsIn_truth hv).map fun _ _ ht => Ternary.fills_toValue (Ternary.fills_not ht)
  | isNull operand => cases hfree
  | isNotNull operand => cases hfree
  | arithmetic op left right =>
      obtain ⟨hleft, hright⟩ := Bool.or_eq_false_iff.mp hfree
      rw [evaluate, evaluate]
      refine (fillsIn_evaluate h left hleft).bind fun _ _ ha => ?_
      exact (fillsIn_evaluate h right hright).bind fun _ _ => Value.fillsIn_arithmetic op ha
  | concat left right =>
      obtain ⟨hleft, hright⟩ := Bool.or_eq_false_iff.mp hfree
      rw [evaluate, evaluate]
      refine (fillsIn_evaluate h left hleft).bind fun _ _ ha => ?_
      exact (fillsIn_evaluate h right hright).map fun _ _ => Value.fills_concat ha

theorem fillsIn_evaluateAll (h : row.FilledBy filled) (operands : List Expr)
    (hfree : anyTestsNull operands = false) :
    ∀ e ∈ operands, FillsIn .null (e.evaluate row) (e.evaluate filled) := by
  cases operands with
  | nil => exact fun _ member => nomatch member
  | cons e rest =>
      obtain ⟨hfirst, hrest⟩ := Bool.or_eq_false_iff.mp hfree
      exact List.forall_mem_cons.mpr
        ⟨fillsIn_evaluate h e hfirst, fillsIn_evaluateAll h rest hrest⟩

end

end

/-- Definite answers are stable. Of an expression without a test for null, filling in nulls of a
row changes neither a truth that was known nor a value that was not null, if it still has one. -/
theorem definite_of_filled {e : Expr} (hfree : e.testsNull = false) {row filled : Row}
    (h : row.FilledBy filled) :
    (∀ t u, e.holds row = .ok t → t ≠ .unknown → e.holds filled = .ok u → u = t) ∧
      ∀ v w, e.evaluate row = .ok v → v ≠ .null → e.evaluate filled = .ok w → w = v := by
  have hvalue := fillsIn_evaluate h e hfree
  constructor
  · intro t u ht hknown hu
    exact ((fillsIn_holds hvalue t u ht hu).resolve_left hknown).symm
  · intro v w hv hdefinite hw
    exact ((hvalue v w hv hw).resolve_left hdefinite).symm

/-- A disjunction that is true by its last operand, behind an unknown one that becomes false, and
a sum of the columns that were not null. -/
theorem definite_of_filled_disjunction :
    let below : Expr := .compare .lt (.column 0) (.literal (.int32 3))
    let equal : Expr := .compare .eq (.column 1) (.literal (.int32 7))
    let either : Expr := .or [.and [below, equal], .not below, equal]
    let sum : Expr := .arithmetic .add (.column 1) (.column 2)
    let row : Row := [.null, .int32 7, .int64 1]
    let filled : Row := [.string "x", .int32 7, .int64 1]
    let other : Row := [.int32 2, .int32 7, .int64 1]
    row.FilledBy filled ∧ row.FilledBy other ∧
      (either.holds row).toOption = some .true ∧ (either.holds filled).toOption = none ∧
      either.holds other = .ok .true ∧ sum.evaluate filled = .ok (.int64 8) := by
  intro below equal either sum row filled other
  have hfilled : row.FilledBy filled :=
    .cons (Or.inl rfl) (.cons (Or.inr rfl) (.cons (Or.inr rfl) .nil))
  have hother : row.FilledBy other :=
    .cons (Or.inl rfl) (.cons (Or.inr rfl) (.cons (Or.inr rfl) .nil))
  have htrue : either.holds row = .ok .true := by rfl
  have hsum : sum.evaluate row = .ok (.int64 8) := by rfl
  obtain ⟨u, hu⟩ : ∃ u, either.holds other = .ok u := ⟨_, rfl⟩
  obtain ⟨w, hw⟩ : ∃ w, sum.evaluate filled = .ok w := ⟨_, rfl⟩
  obtain rfl := (definite_of_filled (by rfl) hother).1 _ u htrue (by decide) hu
  obtain rfl := (definite_of_filled (by rfl) hfilled).2 _ w hsum (by decide) hw
  exact ⟨hfilled, hother, by rfl, by rfl, hu, hw⟩

end Expr

end JoinEngine
