import JoinEngine.Condition.Split
import JoinEngine.Expr.Eval

/-!
Conjunctions as short-circuiting products of outcomes. An outcome is a truth value or a failure;
`Ternary.andThen` reads its second argument only when the first is not definitely false. It is
associative with the outcome *true* as unit, so a condition has the outcome of its conjuncts
however deep the conjunctions nest, failures included, and a conjunct known to be true can be
left out. A disjunction is the negation of a conjunction of negated operands.
-/

namespace JoinEngine

namespace Ternary

/-- A truth value survives the detour over the value of its predicate. -/
theorem truth_toValue (t : Ternary) : t.toValue.truth = .ok t := by
  cases t <;> rfl

/-- The conjunction of two outcomes, the second being looked at only if the first is not
definitely false. -/
def andThen (first second : Except JoinError Ternary) : Except JoinError Ternary :=
  match first with
  | .ok .false => .ok .false
  | .ok t => second.map t.and
  | .error e => .error e

theorem andThen_true (outcome : Except JoinError Ternary) :
    andThen outcome (.ok .true) = outcome := by
  rcases outcome with e | t
  · rfl
  · cases t <;> rfl

theorem true_andThen (outcome : Except JoinError Ternary) :
    andThen (.ok .true) outcome = outcome := by
  rcases outcome with e | t
  · rfl
  · cases t <;> rfl

theorem andThen_assoc (first second third : Except JoinError Ternary) :
    andThen (andThen first second) third = andThen first (andThen second third) := by
  rcases first with e | a
  · rfl
  rcases second with e | b
  · cases a <;> rfl
  rcases third with e | c
  · cases a <;> cases b <;> rfl
  · cases a <;> cases b <;> cases c <;> rfl

theorem andThen_eq_true_iff (first second : Except JoinError Ternary) :
    andThen first second = .ok .true ↔ first = .ok .true ∧ second = .ok .true := by
  rcases first with e | a
  · simp [andThen]
  rcases second with e | b
  · cases a <;> simp [andThen, Except.map]
  · cases a <;> cases b <;> simp [andThen, Except.map, Ternary.and]

end Ternary

namespace Expr

theorem allTrue_cons (row : Row) (e : Expr) (rest : List Expr) :
    allTrue row (e :: rest) = Ternary.andThen (e.holds row) (allTrue row rest) := by
  simp only [allTrue, holds]
  cases e.evaluate row with
  | error f => rfl
  | ok v =>
      change (v.truth >>= fun t => _) = Ternary.andThen v.truth _
      cases v.truth with
      | error f => rfl
      | ok t => cases t <;> cases allTrue row rest <;> rfl

theorem allTrue_append (row : Row) (first second : List Expr) :
    allTrue row (first ++ second) =
      Ternary.andThen (allTrue row first) (allTrue row second) := by
  induction first with
  | nil => exact (Ternary.true_andThen _).symm
  | cons e rest ih =>
      rw [List.cons_append, allTrue_cons, allTrue_cons, ih, Ternary.andThen_assoc]

theorem allTrue_singleton (row : Row) (e : Expr) : allTrue row [e] = e.holds row := by
  rw [allTrue_cons]
  exact Ternary.andThen_true _

theorem holds_and (row : Row) (operands : List Expr) :
    (Expr.and operands).holds row = allTrue row operands := by
  simp only [holds, evaluate]
  cases allTrue row operands with
  | error f => rfl
  | ok t => exact Ternary.truth_toValue t

theorem holds_conjunction (row : Row) (operands : List Expr) :
    (conjunction operands).holds row = allTrue row operands := by
  unfold conjunction
  split
  · exact (allTrue_singleton row _).symm
  · exact holds_and row operands

mutual

/-- Flattening nested conjunctions changes neither the outcome nor the first failure. -/
theorem allTrue_conjuncts (row : Row) (e : Expr) : allTrue row e.conjuncts = e.holds row := by
  cases e with
  | and operands => rw [conjuncts, allTrue_conjunctsOf, holds_and]
  | _ => exact allTrue_singleton row _

theorem allTrue_conjunctsOf (row : Row) (operands : List Expr) :
    allTrue row (conjunctsOf operands) = allTrue row operands := by
  cases operands with
  | nil => rfl
  | cons e rest =>
      rw [conjunctsOf, allTrue_append, allTrue_conjuncts row e,
        allTrue_conjunctsOf row rest, allTrue_cons]

end

theorem allTrue_eq_true_iff (row : Row) (operands : List Expr) :
    allTrue row operands = .ok .true ↔ ∀ e ∈ operands, e.holds row = .ok .true := by
  induction operands with
  | nil => simp [allTrue]
  | cons e rest ih => simp [allTrue_cons, Ternary.andThen_eq_true_iff, ih]

/-- Operands that are definitely true can be dropped from a conjunction. -/
theorem allTrue_filter (row : Row) (keep : Expr → Bool) (operands : List Expr)
    (hdropped : ∀ e ∈ operands, keep e = false → e.holds row = .ok .true) :
    allTrue row (operands.filter keep) = allTrue row operands := by
  induction operands with
  | nil => rfl
  | cons e rest ih =>
      have hrest := ih fun f member => hdropped f (List.mem_cons_of_mem e member)
      cases hkeep : keep e with
      | true =>
          rw [List.filter_cons_of_pos hkeep, allTrue_cons, allTrue_cons, hrest]
      | false =>
          have htrue := hdropped e List.mem_cons_self hkeep
          rw [List.filter_cons_of_neg (by simp [hkeep]), allTrue_cons, htrue,
            Ternary.true_andThen, hrest]

theorem holds_or (row : Row) (operands : List Expr) :
    (Expr.or operands).holds row = anyTrue row operands := by
  simp only [holds, evaluate]
  cases anyTrue row operands with
  | error f => rfl
  | ok t => exact Ternary.truth_toValue t

theorem holds_not (row : Row) (e : Expr) :
    (Expr.not e).holds row = (e.holds row).map Ternary.not := by
  simp only [holds, evaluate]
  cases e.evaluate row with
  | error f => rfl
  | ok v =>
      change (v.truth >>= fun t => _) >>= _ = v.truth.map _
      cases v.truth with
      | error f => rfl
      | ok t => exact Ternary.truth_toValue _

/-- A disjunction is the negated conjunction of the negated operands, failures included. -/
theorem anyTrue_eq_allTrue_not (row : Row) (operands : List Expr) :
    anyTrue row operands = (allTrue row (operands.map .not)).map Ternary.not := by
  induction operands with
  | nil => rfl
  | cons e rest ih =>
      rw [List.map_cons, allTrue_cons, holds_not, anyTrue, ih]
      unfold holds
      cases e.evaluate row with
      | error f => rfl
      | ok v =>
          change (v.truth >>= fun t => _) = _
          change _ = (Ternary.andThen (v.truth.map _) _).map _
          cases v.truth with
          | error f => rfl
          | ok t =>
              cases allTrue row (rest.map .not) with
              | error f => cases t <;> rfl
              | ok u => cases t <;> cases u <;> rfl

end Expr

end JoinEngine
