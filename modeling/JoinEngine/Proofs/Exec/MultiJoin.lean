import Mathlib.Data.List.Perm.Basic
import Mathlib.Data.List.Sections
import JoinEngine.Proofs.Exec.NestedLoop

/-!
Nested loops over any number of sites. A site is a condition with the rows of its right relation.
Looping site by site over ever wider rows gives the same rows, counted with repetitions, as
choosing one right row for each site and keeping the choices on which every site's condition is
true.
-/

namespace JoinEngine

abbrev LoopSite := Expr × List Row

/-- The nested loops over some sites, for one left row. -/
def multiJoin : List LoopSite → Row → List Row
  | [], left => [left]
  | (condition, rights) :: sites, left =>
    (nestedLoop condition left rights).flatMap (multiJoin sites)

/-- Sites on the same conditions, whose right rows are the same up to order. -/
def AlikeSites (sites others : List LoopSite) : Prop :=
  List.Forall₂ (fun a b => a.1 = b.1 ∧ a.2.Perm b.2) sites others

theorem multiJoin_perm {sites others : List LoopSite} (h : AlikeSites sites others) (left : Row) :
    (multiJoin sites left).Perm (multiJoin others left) := by
  unfold AlikeSites at h
  induction h generalizing left with
  | nil => exact .refl _
  | @cons site other _ _ halike _ ih =>
      obtain ⟨condition, rights⟩ := site
      obtain ⟨_, others⟩ := other
      obtain ⟨rfl, hperm⟩ := halike
      have hloop : (nestedLoop condition left rights).Perm (nestedLoop condition left others) :=
        nestedLoop_perm hperm
      exact (List.Perm.flatMap_left _ fun next _ => ih next).trans (hloop.flatMap_right _)

/-- Every site's condition is true on the left row followed by the rows chosen up to there. -/
def selects (sites : List LoopSite) (left : Row) (chosen : List Row) : Bool :=
  sites.zipIdx.all fun (site, i) => site.1.accepts (left ++ (chosen.take (i + 1)).flatten)

/-- The joined rows of all choices of one right row for each site that the conditions select. -/
def selection (sites : List LoopSite) (left : Row) : List Row :=
  ((sites.map Prod.snd).sections.filter (selects sites left)).map fun chosen =>
    left ++ chosen.flatten

theorem selects_cons (condition : Expr) (rights : List Row) (sites : List LoopSite)
    (left right : Row) (chosen : List Row) :
    selects ((condition, rights) :: sites) left (right :: chosen) =
      (condition.accepts (left ++ right) && selects sites (left ++ right) chosen) := by
  unfold selects
  rw [List.zipIdx_cons, List.zipIdx_succ, List.all_cons, List.all_map]
  simp [Function.comp_def]

/-- A choice from some lists is a choice from the first followed by one from the others. -/
theorem sections_cons_perm {α : Type} (items : List α) (others : List (List α)) :
    (items :: others).sections.Perm
      (items.flatMap fun a => others.sections.map (a :: ·)) := by
  induction items with
  | nil => simp [List.sections]
  | cons a rest ih =>
      have hsplit : ((a :: rest) :: others).sections =
          others.sections.flatMap fun chosen =>
            (a :: chosen) :: rest.map fun b => b :: chosen := rfl
      rw [hsplit, List.flatMap_cons]
      exact (List.map_append_flatMap_perm _ _ _).symm.trans (ih.append_left _)

theorem nestedLoop_flatMap (condition : Expr) (left : Row) (rights : List Row)
    (next : Row → List Row) :
    (nestedLoop condition left rights).flatMap next =
      rights.flatMap fun right =>
        if condition.accepts (left ++ right) then next (left ++ right) else [] := by
  induction rights with
  | nil => rfl
  | cons right rest ih =>
      rw [nestedLoop_cons, List.flatMap_append, ih, List.flatMap_cons]
      apply congrArg (· ++ _)
      unfold nestedLoop
      rw [List.map_singleton, List.filter_singleton]
      cases condition.accepts (left ++ right) <;> simp

/-- Looping site by site gives the selected choices. -/
theorem multiJoin_perm_selection (sites : List LoopSite) (left : Row) :
    (multiJoin sites left).Perm (selection sites left) := by
  induction sites generalizing left with
  | nil => simp [multiJoin, selection, selects, List.sections]
  | cons site rest ih =>
      obtain ⟨condition, rights⟩ := site
      have hchoices := sections_cons_perm rights (rest.map Prod.snd)
      refine List.Perm.trans ?_ ((hchoices.filter _).map _).symm
      rw [multiJoin, nestedLoop_flatMap, List.filter_flatMap, List.map_flatMap]
      apply List.Perm.flatMap_left
      intro right _
      have hselects : (selects ((condition, rights) :: rest) left ∘ (right :: ·)) =
          fun chosen => condition.accepts (left ++ right) &&
            selects rest (left ++ right) chosen :=
        funext fun chosen => selects_cons condition rights rest left right chosen
      have hjoined : ((fun chosen : List Row => left ++ chosen.flatten) ∘ (right :: ·)) =
          fun chosen => (left ++ right) ++ chosen.flatten :=
        funext fun chosen => by simp
      rw [List.filter_map, List.map_map, hselects, hjoined]
      cases condition.accepts (left ++ right) with
      | true =>
          simp only [Bool.true_and, if_true]
          exact ih (left ++ right)
      | false => simp

end JoinEngine
