import Mathlib.Algebra.GroupWithZero.Nat
import JoinEngine.Plan.Assembly
import JoinEngine.Proofs.Plan.Graph

/-!
Outlines of plans: a source, joins in order, at most one projection and at most one sink. An
outline is well formed if the widths it passes on are the ones its parts were made for. What a
plan's graph says of its outline can be read off the kinds of its vertices.
-/

namespace JoinEngine

/-- The parts of a plan. -/
structure Outline where
  source : TableRef
  joins : List JoinSite := []
  projection : Option Projection := none
  sink : Option String := none

def addedWidth (joins : List JoinSite) : Nat := (joins.map fun site => site.right.arity).sum

/-- The join can be made behind rows of a width: its right side is a table that ends, and its
condition was made for the width and for the columns of the table. -/
def JoinSite.FitsBehind (site : JoinSite) (width : Nat) : Prop :=
  ∃ t, site.right = .table t ∧ t.unbounded = false ∧ site.descriptor.leftArity = width ∧
    site.descriptor.rightArity = t.arity

namespace Outline

/-- The stages of the outline, in order. -/
def stages (o : Outline) : List PlanStage :=
  .source o.source :: o.joins.map .join ++ (o.projection.map .project).toList ++
    (o.sink.map .sink).toList

def joinedWidth (o : Outline) : Nat := o.source.arity + addedWidth o.joins

def width (o : Outline) : Nat :=
  match o.projection with
  | some p => p.outputArity o.joinedWidth
  | none => o.joinedWidth

/-- Every part was made for the width of the rows it gets. -/
structure Fits (o : Outline) : Prop where
  joins : ∀ before site after, o.joins = before ++ site :: after →
    site.FitsBehind (o.source.arity + addedWidth before)
  columns : ∀ p ∈ o.projection, ∀ column ∈ p.columns, column < o.joinedWidth

/-- The outline fits together, has a sink exactly if rows are inserted, and gives rows as the
metadata describes them, if it does. -/
structure WellFormed (o : Outline) (insert : Bool) (metadata : RowMetadata) : Prop
    extends o.Fits where
  sink : o.sink.isSome = insert
  metadata : metadata.columns = [] ∨ metadata.count = o.width

def joinKinds (joins : List JoinSite) : List VertexKind :=
  joins.flatMap fun site => [site.rightKind, .join site]

def kinds (o : Outline) : List VertexKind :=
  .source o.source :: joinKinds o.joins ++ (o.projection.map .project).toList ++
    (o.sink.map .sink).toList

/-- One more join behind joins that fit. -/
theorem Fits.snoc {source : TableRef} {joins : List JoinSite} {site : JoinSite}
    (h : Fits { source, joins }) (hsite : site.FitsBehind (source.arity + addedWidth joins)) :
    Fits { source, joins := joins ++ [site] } where
  joins before other after hsplit := by
    rcases List.eq_nil_or_concat after with rfl | ⟨init, last, rfl⟩
    · obtain ⟨rfl, hlast⟩ := List.append_inj' hsplit rfl
      obtain rfl := List.head_eq_of_cons_eq hlast
      exact hsite
    · rw [List.concat_eq_append, ← List.cons_append, ← List.append_assoc] at hsplit
      obtain ⟨hinit, -⟩ := List.append_inj' hsplit rfl
      exact h.joins before other init hinit
  columns _ hp := nomatch hp

end Outline

namespace VertexKind

def source? : VertexKind → Option TableRef
  | .source table => some table
  | _ => none

def join? : VertexKind → Option JoinSite
  | .join site => some site
  | _ => none

def project? : VertexKind → Option Projection
  | .project p => some p
  | _ => none

def sink? : VertexKind → Option String
  | .sink target => some target
  | _ => none

def isEndless : VertexKind → Bool
  | .source table => table.unbounded
  | .right _ _ unbounded => unbounded
  | _ => false

end VertexKind

def PlanStage.kind : PlanStage → VertexKind
  | .source table => .source table
  | .join site => .join site
  | .project projection => .project projection
  | .sink target => .sink target

namespace Outline

theorem filterMap_joinKinds (joins : List JoinSite) :
    (joinKinds joins).filterMap VertexKind.join? = joins := by
  induction joins with
  | nil => rfl
  | cons site rest ih =>
      obtain ⟨name, hkind⟩ := site.exists_rightKind
      have hright : site.rightKind.join? = none := by rw [hkind]; rfl
      have hsplit : joinKinds (site :: rest) =
          site.rightKind :: VertexKind.join site :: joinKinds rest := rfl
      have hjoin : (VertexKind.join site).join? = some site := rfl
      rw [hsplit, List.filterMap_cons_none hright, List.filterMap_cons_some hjoin, ih]

theorem findSome?_joinKinds {α : Type} {f : VertexKind → Option α}
    (hright : ∀ name kind, f (.right name kind false) = none)
    (hjoin : ∀ site, f (.join site) = none) (joins : List JoinSite) :
    (joinKinds joins).findSome? f = none := by
  apply List.findSome?_eq_none_iff.mpr
  intro kind member
  obtain ⟨site, -, hkind⟩ := List.mem_flatMap.mp member
  simp only [List.mem_cons, List.not_mem_nil, or_false] at hkind
  rcases hkind with rfl | rfl
  · obtain ⟨name, hkind⟩ := site.exists_rightKind
    rw [hkind]
    exact hright name site.kind
  · exact hjoin site

theorem inputs_joinKinds (joins : List JoinSite) :
    (joinKinds joins).filter VertexKind.isInput = joins.map JoinSite.rightKind := by
  induction joins with
  | nil => rfl
  | cons site rest ih =>
      obtain ⟨name, hkind⟩ := site.exists_rightKind
      have hright : site.rightKind.isInput = true := by rw [hkind]; rfl
      have hjoin : ¬ (VertexKind.join site).isInput = true := Bool.false_ne_true
      have hsplit : joinKinds (site :: rest) =
          site.rightKind :: VertexKind.join site :: joinKinds rest := rfl
      rw [hsplit, List.filter_cons_of_pos hright, List.filter_cons_of_neg hjoin, ih, List.map_cons]

theorem joins_kinds (o : Outline) : o.kinds.filterMap VertexKind.join? = o.joins := by
  have hprojection : (o.projection.map VertexKind.project).toList.filterMap VertexKind.join? =
      [] := by
    cases o.projection <;> rfl
  have hsink : (o.sink.map VertexKind.sink).toList.filterMap VertexKind.join? = [] := by
    cases o.sink <;> rfl
  have hsource : (VertexKind.source o.source).join? = none := rfl
  unfold kinds
  rw [List.filterMap_append, List.filterMap_append, hprojection, hsink, List.append_nil,
    List.append_nil, List.filterMap_cons_none hsource, filterMap_joinKinds]

theorem projection_kinds (o : Outline) :
    o.kinds.findSome? VertexKind.project? = o.projection := by
  have hjoins : (joinKinds o.joins).findSome? VertexKind.project? = none :=
    findSome?_joinKinds (fun _ _ => rfl) (fun _ => rfl) o.joins
  have hsource : (VertexKind.source o.source).project? = none := rfl
  unfold kinds
  rw [List.findSome?_append, List.findSome?_append, List.findSome?_cons, hsource, hjoins]
  cases o.projection with
  | some p => rfl
  | none => cases o.sink <;> rfl

theorem sink_kinds (o : Outline) : o.kinds.findSome? VertexKind.sink? = o.sink := by
  have hjoins : (joinKinds o.joins).findSome? VertexKind.sink? = none :=
    findSome?_joinKinds (fun _ _ => rfl) (fun _ => rfl) o.joins
  have hsource : (VertexKind.source o.source).sink? = none := rfl
  unfold kinds
  rw [List.findSome?_append, List.findSome?_append, List.findSome?_cons, hsource, hjoins]
  cases o.projection <;> cases o.sink <;> rfl

theorem inputs_kinds (o : Outline) :
    o.kinds.filter VertexKind.isInput = .source o.source :: o.joins.map JoinSite.rightKind := by
  have hprojection : (o.projection.map VertexKind.project).toList.filter VertexKind.isInput =
      [] := by
    cases o.projection <;> rfl
  have hsink : (o.sink.map VertexKind.sink).toList.filter VertexKind.isInput = [] := by
    cases o.sink <;> rfl
  have hsource : (VertexKind.source o.source).isInput = true := rfl
  unfold kinds
  rw [List.filter_append, List.filter_append, hprojection, hsink, List.append_nil,
    List.append_nil, List.filter_cons_of_pos hsource, inputs_joinKinds]

/-- The parts of an outline can be read off its stages. -/
theorem eq_of_stages {o other : Outline} (h : o.stages = other.stages) : o = other := by
  have hnone {α : Type} (joins : List JoinSite) :
      joins.findSome? (fun _ => (none : Option α)) = none :=
    List.findSome?_eq_none_iff.mpr fun _ _ => rfl
  have hread (o : Outline) :
      o.stages.head? = some (.source o.source) ∧
        o.stages.filterMap (fun stage => stage.kind.join?) = o.joins ∧
        o.stages.findSome? (fun stage => stage.kind.project?) = o.projection ∧
        o.stages.findSome? (fun stage => stage.kind.sink?) = o.sink := by
    obtain ⟨source, joins, projection, sink⟩ := o
    cases projection <;> cases sink <;>
      simp [stages, PlanStage.kind, VertexKind.join?, VertexKind.project?, VertexKind.sink?,
        List.filterMap_map, List.findSome?_map, Function.comp_def, hnone]
  obtain ⟨hsource, hjoins, hprojection, hsink⟩ := hread o
  obtain ⟨hsource', hjoins', hprojection', hsink'⟩ := hread other
  rw [h] at hsource hjoins hprojection hsink
  obtain ⟨source, joins, projection, sink⟩ := o
  obtain rfl := PlanStage.source.inj (Option.some.inj (hsource'.symm.trans hsource))
  obtain rfl := hjoins'.symm.trans hjoins
  obtain rfl := hprojection'.symm.trans hprojection
  obtain rfl := hsink'.symm.trans hsink
  rfl

end Outline

end JoinEngine
