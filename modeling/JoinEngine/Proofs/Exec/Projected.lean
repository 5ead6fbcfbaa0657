import JoinEngine.Exec.Projection
import JoinEngine.Proofs.Exec.NestedLoop

/-!
What filtering and projecting rows comes to when it succeeds: the rows that the filter lets
through, in order, each replaced by the row made of it. An unknown filter drops a row as a false
one does.
-/

namespace JoinEngine

namespace Projection

def lets (p : Projection) (row : Row) : Bool :=
  match p.filter with
  | none => true
  | some predicate => predicate.accepts row

/-- The row made of a joined row: the row itself if there are no expressions, else their
values. -/
def Makes (p : Projection) (row made : Row) : Prop :=
  (p.exprs = [] → made = row) ∧
    (p.exprs ≠ [] → List.Forall₂ (fun e v => e.evaluate row = .ok v) p.exprs made)

theorem forall₂_of_mapM {α β : Type} {f : α → Except JoinError β} {items : List α}
    {results : List β} (h : items.mapM f = .ok results) :
    List.Forall₂ (fun a b => f a = .ok b) items results := by
  induction items generalizing results with
  | nil =>
      obtain rfl := Except.ok.inj h
      exact .nil
  | cons a rest ih =>
      rw [List.mapM_cons] at h
      obtain ⟨b, hfirst, h⟩ := exists_of_bind_eq_ok h
      obtain ⟨others, hrest, h⟩ := exists_of_bind_eq_ok h
      obtain rfl := Except.ok.inj h
      exact .cons hfirst (ih hrest)

theorem makes_of_project {p : Projection} {row made : Row} (h : p.project row = .ok made) :
    p.Makes row made := by
  unfold project at h
  split at h
  next hempty =>
    have hnone : p.exprs = [] := List.isEmpty_iff.mp hempty
    exact ⟨fun _ => (Except.ok.inj h).symm, fun hsome => absurd hnone hsome⟩
  next hsome =>
    refine ⟨fun hnone => ?_, fun _ => forall₂_of_mapM h⟩
    rw [hnone] at hsome
    exact absurd rfl hsome

/-- A made row has as many values as the projection says. -/
theorem Makes.length {p : Projection} {row made : Row} (h : p.Makes row made) :
    made.length = p.outputArity row.length := by
  unfold outputArity
  split
  next hempty => rw [h.1 (List.isEmpty_iff.mp hempty)]
  next hsome =>
    have hexprs : p.exprs ≠ [] := fun hnone => hsome (by rw [hnone]; rfl)
    exact (h.2 hexprs).length_eq.symm

/-- Testing the filter tells whether it lets the row through, and keeps the query live. -/
theorem accepts_eq_ok {p : Projection} {row : Row} {s t : Session} {passed : Bool}
    (hlive : s.Live) (h : p.accepts row s = (.ok passed, t)) : passed = p.lets row ∧ t.Live := by
  unfold lets
  cases hfilter : p.filter with
  | none =>
      have hrun : p.accepts row s = (.ok true, s) := by
        simp only [accepts, hfilter]
        rfl
      rw [hrun] at h
      obtain ⟨hpassed, rfl⟩ := Prod.mk.inj h
      exact ⟨(Except.ok.inj hpassed).symm, hlive⟩
  | some predicate =>
      have hrun : p.accepts row s =
          ((predicate.holds row).map Ternary.isTrue, s.countEvaluation) := by
        simp only [accepts, hfilter]
        cases predicate.holds row <;> rfl
      rw [hrun] at h
      obtain ⟨hpassed, rfl⟩ := Prod.mk.inj h
      refine ⟨?_, hlive.countEvaluation⟩
      cases hholds : predicate.holds row with
      | error e =>
          rw [hholds] at hpassed
          cases hpassed
      | ok truth =>
          rw [hholds] at hpassed
          simp only [Expr.accepts, hholds]
          exact (Except.ok.inj hpassed).symm

theorem apply_eq_ok {p : Projection} {row : Row} {s t : Session} {made : Option Row}
    (hlive : s.Live) (h : p.apply row s = (.ok made, t)) :
    t.Live ∧
      (p.lets row = true ∧ (∃ out, made = some out ∧ p.Makes row out) ∨
        p.lets row = false ∧ made = none) := by
  obtain ⟨passed, u, haccepts, hrest⟩ := Run.bind_eq_ok h
  obtain ⟨rfl, hu⟩ := accepts_eq_ok hlive haccepts
  cases hlets : p.lets row with
  | true =>
      rw [hlets] at hrest
      obtain ⟨out, v, hproject, hlast⟩ := Run.bind_eq_ok hrest
      obtain ⟨hout, rfl⟩ := Run.lift_eq_ok hproject
      obtain ⟨rfl, rfl⟩ := Run.pure_eq_ok hlast
      exact ⟨hu, Or.inl ⟨rfl, out, rfl, makes_of_project hout⟩⟩
  | false =>
      rw [hlets] at hrest
      obtain ⟨rfl, rfl⟩ := Run.pure_eq_ok hrest
      exact ⟨hu, Or.inr ⟨rfl, rfl⟩⟩

/-- Rows that are filtered and projected without failure are those made of the rows that the
filter lets through, in order. -/
theorem applyAll_eq_ok {p : Projection} {rows out : List Row} {s t : Session} (hlive : s.Live)
    (h : p.applyAll rows s = (.ok out, t)) :
    t.Live ∧ List.Forall₂ p.Makes (rows.filter p.lets) out := by
  induction rows generalizing s out with
  | nil =>
      obtain ⟨rfl, rfl⟩ := Run.pure_eq_ok h
      exact ⟨hlive, .nil⟩
  | cons row rest ih =>
      obtain ⟨made, u, happly, hrest⟩ := Run.bind_eq_ok h
      obtain ⟨others, v, hothers, hlast⟩ := Run.bind_eq_ok hrest
      obtain ⟨rfl, rfl⟩ := Run.pure_eq_ok hlast
      obtain ⟨hu, hmade⟩ := apply_eq_ok hlive happly
      obtain ⟨hv, hmakes⟩ := ih hu hothers
      refine ⟨hv, ?_⟩
      rcases hmade with ⟨hlets, one, rfl, hone⟩ | ⟨hlets, rfl⟩
      · rw [List.filter_cons_of_pos hlets]
        exact .cons hone hmakes
      · rw [List.filter_cons_of_neg (by simp [hlets])]
        exact hmakes

end Projection

end JoinEngine
