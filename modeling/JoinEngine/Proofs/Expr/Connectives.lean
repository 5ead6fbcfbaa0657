import JoinEngine.Proofs.Expr.Conjunction
import Mathlib.Tactic.Choose

/-!
Conjunction and disjunction after Kleene, read from left to right. One truth is decisive, false
for a conjunction and true for a disjunction: it settles the connective unless a failure stands
before it. The two rules differ in the decisive truth alone, and negation exchanges them. Where
no operand fails the order of the operands does not matter.
-/

namespace JoinEngine

def truthsBeforeFailure : List (Except JoinError Ternary) → List Ternary
  | .ok t :: rest => t :: truthsBeforeFailure rest
  | _ => []

/-- The truth of a connective none of whose operands is decisive. -/
def undecided (decisive : Ternary) (truths : List Ternary) : Ternary :=
  if truths.all (· = decisive.not) then decisive.not else .unknown

/-- The outcome of a connective by the outcomes of its operands: the decisive truth if it comes
before any failure, else the first failure, else the other truth if all operands agree on it. -/
def kleene (decisive : Ternary) (outcomes : List (Except JoinError Ternary)) :
    Except JoinError Ternary :=
  if decisive ∈ truthsBeforeFailure outcomes then .ok decisive
  else (outcomes.mapM id).map (undecided decisive)

namespace Ternary

theorem not_not (t : Ternary) : t.not.not = t := by
  cases t <;> rfl

theorem not_inj {t u : Ternary} : t.not = u.not ↔ t = u := by
  cases t <;> cases u <;> decide

theorem map_not_map_not (outcome : Except JoinError Ternary) :
    (outcome.map Ternary.not).map Ternary.not = outcome := by
  rcases outcome with e | t
  · rfl
  · exact congrArg Except.ok t.not_not

theorem mem_map_not {t : Ternary} {truths : List Ternary} :
    t.not ∈ truths.map Ternary.not ↔ t ∈ truths := by
  simp [List.mem_map, not_inj]

end Ternary

section

variable (decisive : Ternary) (truths : List Ternary)

theorem undecided_not_cons : undecided decisive (decisive.not :: truths) =
    undecided decisive truths := by
  simp [undecided]

theorem undecided_unknown_cons : undecided decisive (.unknown :: truths) = .unknown := by
  cases decisive <;> simp [undecided, Ternary.not]

/-- Negation takes the open connectives to each other. -/
theorem undecided_map_not :
    undecided decisive.not (truths.map Ternary.not) = (undecided decisive truths).not := by
  simp only [undecided, List.all_map, Function.comp_def, Ternary.not_inj]
  split <;> rfl

theorem undecided_perm {truths permuted : List Ternary} (h : truths.Perm permuted) :
    undecided decisive truths = undecided decisive permuted := by
  rw [undecided, undecided, h.all_eq]

end

section

variable (outcomes : List (Except JoinError Ternary))

theorem mapM_id_ok_cons (t : Ternary) :
    (.ok t :: outcomes).mapM id = (outcomes.mapM id).map (t :: ·) := by
  rw [List.mapM_cons]
  rfl

/-- A conjunction is the short-circuiting product of the outcomes of its operands. -/
theorem kleene_false_cons (first : Except JoinError Ternary) :
    kleene .false (first :: outcomes) = Ternary.andThen first (kleene .false outcomes) := by
  rcases first with e | t
  · rfl
  by_cases hsettled : Ternary.false ∈ truthsBeforeFailure outcomes
  · unfold kleene
    rw [if_pos hsettled, truthsBeforeFailure, if_pos (List.mem_cons_of_mem t hsettled)]
    cases t <;> rfl
  unfold kleene
  rw [if_neg hsettled, mapM_id_ok_cons]
  cases t with
  | false => exact if_pos List.mem_cons_self
  | true =>
      rw [Ternary.true_andThen, if_neg (by simpa [truthsBeforeFailure] using hsettled)]
      cases outcomes.mapM id with
      | error e => rfl
      | ok truths => exact congrArg Except.ok (undecided_not_cons .false truths)
  | unknown =>
      rw [if_neg (by simpa [truthsBeforeFailure] using hsettled)]
      cases outcomes.mapM id with
      | error e => rfl
      | ok truths =>
          have hopen : Ternary.unknown.and (undecided .false truths) = .unknown := by
            unfold undecided
            split <;> rfl
          change Except.ok (undecided .false (.unknown :: truths)) = .ok (Ternary.unknown.and _)
          rw [undecided_unknown_cons, hopen]

theorem truthsBeforeFailure_map_not :
    truthsBeforeFailure (outcomes.map (Except.map Ternary.not)) =
      (truthsBeforeFailure outcomes).map Ternary.not := by
  induction outcomes with
  | nil => rfl
  | cons first rest ih =>
      cases first with
      | error e => rfl
      | ok t => exact congrArg (t.not :: ·) ih

theorem mapM_id_map_not :
    (outcomes.map (Except.map Ternary.not)).mapM id =
      (outcomes.mapM id).map (List.map Ternary.not) := by
  induction outcomes with
  | nil => rfl
  | cons first rest ih =>
      cases first with
      | error e => rfl
      | ok t =>
          change (.ok t.not :: rest.map (Except.map Ternary.not)).mapM id = _
          rw [mapM_id_ok_cons, mapM_id_ok_cons, ih]
          cases rest.mapM id <;> rfl

/-- Negating all operands negates the connective of the opposite decisive truth. -/
theorem kleene_map_not (decisive : Ternary) :
    kleene decisive.not (outcomes.map (Except.map Ternary.not)) =
      (kleene decisive outcomes).map Ternary.not := by
  unfold kleene
  rw [truthsBeforeFailure_map_not, mapM_id_map_not]
  by_cases hsettled : decisive ∈ truthsBeforeFailure outcomes
  · rw [if_pos hsettled, if_pos (Ternary.mem_map_not.mpr hsettled)]
    rfl
  · rw [if_neg hsettled, if_neg (mt Ternary.mem_map_not.mp hsettled)]
    cases outcomes.mapM id with
    | error e => rfl
    | ok truths => exact congrArg Except.ok (undecided_map_not decisive truths)

theorem truthsBeforeFailure_map_ok (truths : List Ternary) :
    truthsBeforeFailure (truths.map .ok) = truths := by
  induction truths with
  | nil => rfl
  | cons t rest ih => exact congrArg (t :: ·) ih

theorem mapM_id_map_ok (truths : List Ternary) :
    (truths.map .ok : List (Except JoinError Ternary)).mapM id = .ok truths := by
  induction truths with
  | nil => rfl
  | cons t rest ih =>
      rw [List.map_cons, mapM_id_ok_cons, ih]
      rfl

/-- Without a failure only the truths of the operands count, not their order. -/
theorem kleene_perm (decisive : Ternary) {truths permuted : List Ternary}
    (h : truths.Perm permuted) :
    kleene decisive (truths.map .ok) = kleene decisive (permuted.map .ok) := by
  simp only [kleene, truthsBeforeFailure_map_ok, mapM_id_map_ok, h.mem_iff, Except.map,
    undecided_perm decisive h]

end

namespace Expr

section

variable (row : Row) (operands : List Expr)

theorem map_holds_not :
    (operands.map .not).map (holds row) =
      (operands.map (holds row)).map (Except.map Ternary.not) := by
  simp only [List.map_map, Function.comp_def, holds_not]

theorem holds_and_eq_kleene :
    (Expr.and operands).holds row = kleene .false (operands.map (holds row)) := by
  rw [holds_and]
  induction operands with
  | nil => rfl
  | cons e rest ih => rw [allTrue_cons, ih, List.map_cons, kleene_false_cons]

theorem holds_or_eq_kleene :
    (Expr.or operands).holds row = kleene .true (operands.map (holds row)) := by
  rw [holds_or, anyTrue_eq_allTrue_not, ← holds_and, holds_and_eq_kleene, map_holds_not]
  change (kleene Ternary.true.not _).map Ternary.not = _
  rw [kleene_map_not, Ternary.map_not_map_not]

theorem holds_not_and :
    (Expr.not (.and operands)).holds row = (Expr.or (operands.map .not)).holds row := by
  rw [holds_not, holds_and_eq_kleene, ← kleene_map_not, ← map_holds_not]
  exact (holds_or_eq_kleene row _).symm

theorem holds_not_or :
    (Expr.not (.or operands)).holds row = (Expr.and (operands.map .not)).holds row := by
  rw [holds_not, holds_or_eq_kleene, ← kleene_map_not, ← map_holds_not]
  exact (holds_and_eq_kleene row _).symm

end

section

variable {row other : Row}

theorem allTrue_congr {operands others : List Expr}
    (h : operands.map (holds row) = others.map (holds other)) :
    allTrue row operands = allTrue other others := by
  rw [← holds_and, ← holds_and, holds_and_eq_kleene, holds_and_eq_kleene, h]

theorem anyTrue_congr {operands others : List Expr}
    (h : operands.map (holds row) = others.map (holds other)) :
    anyTrue row operands = anyTrue other others := by
  rw [← holds_or, ← holds_or, holds_or_eq_kleene, holds_or_eq_kleene, h]

/-- A conjunction among the operands of a conjunction can be written out. -/
theorem holds_and_splice (before inner after : List Expr) :
    (Expr.and (before ++ .and inner :: after)).holds row =
      (Expr.and (before ++ inner ++ after)).holds row := by
  simp only [holds_and, allTrue_append, allTrue_cons, Ternary.andThen_assoc]

theorem holds_or_splice (before inner after : List Expr) :
    (Expr.or (before ++ .or inner :: after)).holds row =
      (Expr.or (before ++ inner ++ after)).holds row := by
  have hinner : (Expr.not (.or inner)).holds row = allTrue row (inner.map .not) := by
    rw [holds_not_or, holds_and]
  simp only [holds_or, anyTrue_eq_allTrue_not, List.map_append, List.map_cons, allTrue_append,
    allTrue_cons, hinner, Ternary.andThen_assoc]

theorem kleene_map_holds_perm (decisive : Ternary) {operands permuted : List Expr}
    (h : operands.Perm permuted) (htruths : ∀ e ∈ operands, ∃ t, e.holds row = .ok t) :
    kleene decisive (operands.map (holds row)) = kleene decisive (permuted.map (holds row)) := by
  have : Nonempty Ternary := ⟨.unknown⟩
  choose! truth htruth using htruths
  have hfirst : operands.map (holds row) = (operands.map truth).map .ok := by
    rw [List.map_map]
    exact List.map_congr_left htruth
  have hsecond : permuted.map (holds row) = (permuted.map truth).map .ok := by
    rw [List.map_map]
    exact List.map_congr_left fun e member => htruth e (h.mem_iff.mpr member)
  rw [hfirst, hsecond]
  exact kleene_perm decisive (h.map truth)

end

/-- Conjunction and disjunction follow Kleene from left to right, failures included. So negation
exchanges them, nested connectives of the same kind can be written out at any position, and the
order does not matter where no operand fails. -/
theorem connectives_follow_kleene (row : Row) (operands : List Expr) :
    ((Expr.and operands).holds row = kleene .false (operands.map (holds row)) ∧
      (Expr.or operands).holds row = kleene .true (operands.map (holds row))) ∧
    ((Expr.not (.and operands)).holds row = (Expr.or (operands.map .not)).holds row ∧
      (Expr.not (.or operands)).holds row = (Expr.and (operands.map .not)).holds row) ∧
    (∀ before inner after, operands = before ++ inner ++ after →
      (Expr.and (before ++ .and inner :: after)).holds row = (Expr.and operands).holds row ∧
      (Expr.or (before ++ .or inner :: after)).holds row = (Expr.or operands).holds row) ∧
    ((∀ e ∈ operands, ∃ t, e.holds row = .ok t) → ∀ permuted, operands.Perm permuted →
      (Expr.and permuted).holds row = (Expr.and operands).holds row ∧
      (Expr.or permuted).holds row = (Expr.or operands).holds row) := by
  refine ⟨⟨holds_and_eq_kleene row operands, holds_or_eq_kleene row operands⟩,
    ⟨holds_not_and row operands, holds_not_or row operands⟩, ?splice, ?order⟩
  case splice =>
    rintro before inner after rfl
    exact ⟨holds_and_splice before inner after, holds_or_splice before inner after⟩
  case order =>
    intro htruths permuted h
    simp only [holds_and_eq_kleene, holds_or_eq_kleene]
    exact ⟨(kleene_map_holds_perm .false h htruths).symm,
      (kleene_map_holds_perm .true h htruths).symm⟩

/-- An unknown operand lets the failure behind it through, which a false one before it hides; a
nested conjunction is written out, and operands without a failure are reordered. -/
theorem connectives_of_unknown_and_failing :
    let row : Row := [.null, .int32 1, .string "x"]
    let unknown : Expr := .columnsEqual 0 1
    let failing : Expr := .column 2
    let holding : Expr := .compare .lt (.column 1) (.literal (.int64 2))
    let operands : List Expr := [unknown, holding, .not holding]
    let failure : JoinError := .evaluation (.notBoolean "VARCHAR")
    ((Expr.and [unknown, failing, .not holding]).holds row = .error failure ∧
      (Expr.and [unknown, .not holding, failing]).holds row = .ok .false) ∧
    (∀ e ∈ operands, ∃ t, e.holds row = .ok t) ∧
    operands.Perm [.not holding, unknown, holding] ∧
    (Expr.and [.not holding, unknown, holding]).holds row = (Expr.and operands).holds row ∧
    (Expr.or [unknown, .or [holding, .not holding]]).holds row = .ok .true := by
  intro row unknown failing holding operands failure
  have htruths : ∀ e ∈ operands, ∃ t, e.holds row = .ok t := by
    simp only [operands, List.forall_mem_cons]
    exact ⟨⟨.unknown, rfl⟩, ⟨.true, rfl⟩, ⟨.false, rfl⟩, fun _ member => nomatch member⟩
  have hperm : operands.Perm [.not holding, unknown, holding] :=
    List.perm_append_singleton (Expr.not holding) [unknown, holding]
  obtain ⟨⟨-, hor⟩, -, hsplice, horder⟩ := connectives_follow_kleene row operands
  have hnested := (hsplice [unknown] [holding, .not holding] [] rfl).2
  refine ⟨⟨rfl, rfl⟩, htruths, hperm, (horder htruths _ hperm).1, hnested.trans (hor.trans rfl)⟩

end Expr

end JoinEngine
