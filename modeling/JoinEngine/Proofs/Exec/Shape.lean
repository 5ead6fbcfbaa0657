import JoinEngine.Exec.Chain
import JoinEngine.Proofs.Exec.Materialized
import JoinEngine.Proofs.Exec.Projected
import JoinEngine.Proofs.Exec.Slot
import JoinEngine.Proofs.Expr.Columns

/-!
Rows of the widths they should have. A stage made for the widths of its left and right rows takes
up no right row of another width, so every predicate it evaluates finds its columns, and the rows
it emits have the width that the next stage was made for. What holds of a stage in every state
it can come to holds, stage by stage, of the rows that are pushed through a chain.
-/

namespace JoinEngine

/-- The failure is no missing column, unless it is one of the faults. -/
def NoColumnOnlyIf (fault : JoinError → Prop) (e : JoinError) : Prop := e.IsNoColumn → fault e

theorem InRange.noColumnOnlyIf {α : Type} {outcome : Except JoinError α} (h : InRange outcome)
    {fault : JoinError → Prop} {e : JoinError} (he : outcome = .error e) : NoColumnOnlyIf fault e :=
  fun hcolumn => absurd hcolumn (h e he)

theorem Row.inRange_expectArity (row : Row) (arity : Nat) :
    InRange ((row.expectArity arity).mapError JoinError.shape) := by
  unfold Row.expectArity
  split
  · exact inRange_ok ()
  · exact inRange_error (by simp [JoinError.IsNoColumn])

namespace BuildSide

variable [KeyHasher] {arity : Nat} {rows : List Row} {side : BuildSide}

/-- Rows that could all be stored have the arity. -/
theorem arities_of_foldlM_add {keys : List Nat} {final : BuildSide}
    (h : rows.foldlM (add arity keys) side = .ok final) : ∀ row ∈ rows, row.length = arity := by
  induction rows generalizing side with
  | nil => simp
  | cons row rest ih =>
      rw [List.foldlM_cons] at h
      obtain ⟨next, hadd, hrest⟩ := exists_of_bind_eq_ok h
      by_cases harity : row.length = arity
      · exact List.forall_mem_cons.mpr ⟨harity, ih hrest⟩
      · rw [add_refused harity] at hadd
        cases hadd

/-- A side that is made offers rows of its arity alone. -/
theorem offers_of_ofRows {keys : Option (List Nat)} {hint : Nat}
    (h : ofRows rows arity keys hint = .ok side) : side.Offers (·.length = arity) := by
  have hmade := h
  unfold ofRows at hmade
  obtain ⟨hcount, hstored⟩ := check_eq_ok_iff.mp hmade
  have harities := arities_of_foldlM_add hstored
  obtain ⟨other, hother, hholds⟩ := ofRows_holds keys hint (Nat.le_of_not_lt hcount) harities
  rw [h] at hother
  obtain rfl := Except.ok.inj hother
  refine ⟨fun row member => ?_, fun hash position member => ?_⟩
  · rw [hholds.arena.rows] at member
    exact harities row member
  · -- without key columns there is no index, and without an index no candidate
    cases keys with
    | none =>
        unfold candidates at member
        rw [hholds.unindexed rfl] at member
        cases member
    | some columns =>
        have hplaced := List.mem_map_of_mem (f := side.arena.row) member
        rw [hholds.candidates (Nat.le_of_not_lt hcount), List.mem_reverse] at hplaced
        exact harities _ (List.mem_filter.mp hplaced).1

theorem offers_of_ofScan {relation : RightRelation} {keys : Option (List Nat)}
    {config : JoinConfig} (h : ofScan relation keys config rows = .ok side) :
    side.Offers (·.length = relation.arity) := by
  unfold ofScan at h
  exact offers_of_ofRows (check_eq_ok_iff.mp h).2

theorem inRange_ofScan (relation : RightRelation) (keys : Option (List Nat)) (config : JoinConfig)
    (rows : List Row) : InRange (ofScan relation keys config rows) := by
  have hstored (columns : List Nat) (start : BuildSide) :
      InRange (rows.foldlM (add relation.arity columns) start) := by
    induction rows generalizing start with
    | nil => exact inRange_ok start
    | cons row rest ih =>
        rw [List.foldlM_cons]
        refine InRange.bind ?_ fun next => ih next
        exact (row.inRange_expectArity relation.arity).bind fun _ => inRange_ok _
  unfold ofScan ofRows
  split
  · exact inRange_error (by simp [JoinError.IsNoColumn])
  · split
    · exact inRange_error (by simp [JoinError.IsNoColumn])
    · exact hstored _ _

end BuildSide

open Run

namespace JoinStage

/-- The stage was made for its rows: the relation has the columns it expects, and its predicates
refer only to columns of the joined row. -/
structure Shaped (stage : JoinStage) : Prop where
  right : stage.right.arity = stage.descriptor.rightArity
  predicates : stage.descriptor.Within

variable {stage : JoinStage} {left : Row} {fault : JoinError → Prop}

/-- A predicate of the stage finds its columns on rows of the widths it was made for. -/
theorem Shaped.inRange (h : stage.Shaped) {predicate : Expr} {right : Row}
    (hpredicate : some predicate = stage.descriptor.residual ∨
      predicate = stage.descriptor.condition)
    (hleft : left.length = stage.descriptor.leftArity)
    (hright : right.length = stage.descriptor.rightArity) :
    InRange (predicate.holds (left ++ right)) := by
  have hwidth : (left ++ right).length = stage.descriptor.outputArity := by
    rw [List.length_append, hleft, hright]
    rfl
  apply Expr.Within.holds
  rw [hwidth]
  rcases hpredicate with hresidual | rfl
  · exact h.predicates.residual predicate hresidual.symm
  · exact h.predicates.condition

def shapeContract (stage : JoinStage) (fault : JoinError → Prop) : ProbeContract where
  inv s := (∀ side, s.site.build.side = some side →
    side.Offers (·.length = stage.descriptor.rightArity)) ∧
      ∀ row ∈ s.emitted.toList, row.length = stage.descriptor.outputArity
  takes right := right.length = stage.descriptor.rightArity
  errs := NoColumnOnlyIf fault

variable [KeyHasher]

theorem Shaped.offers (h : stage.Shaped) {rows : List Row} {side : BuildSide}
    (hside : stage.sideOf rows = .ok side) :
    side.Offers (·.length = stage.descriptor.rightArity) := by
  rw [← h.right]
  exact BuildSide.offers_of_ofScan hside

theorem probes_shapeContract (h : stage.Shaped) (hfault : ∀ e, stage.right.Fails e → fault e)
    (hleft : left.length = stage.descriptor.leftArity) :
    stage.Probes left (stage.shapeContract fault) where
  counted _ _ hs := hs
  evaluated _ hs := hs
  emitted s right hright hs := by
    refine ⟨hs.1, fun row member => ?_⟩
    rw [Array.toList_push, List.mem_append, List.mem_singleton] at member
    rcases member with hbefore | rfl
    · exact hs.2 row hbefore
    · rw [List.length_append, hleft, hright]
      rfl
  cancelled := by
    rintro ⟨_, _, ⟨⟩⟩
  untested predicate right e hright hpredicate he :=
    (h.inRange hpredicate hleft hright).noColumnOnlyIf he
  called _ _ hs := hs
  emptied _ hs := ⟨fun _ hside => (nomatch hside), hs.2⟩
  filled s n rows side _ hside hs := by
    refine ⟨fun other hother => ?_, hs.2⟩
    obtain rfl := Option.some.inj hother
    exact h.offers hside
  held s side hs hside := hs.1 side hside
  made _ _ _ _ hside := h.offers hside
  expected right hright := Row.length_of_expectArity hright
  unexpected right _ he := (right.inRange_expectArity _).noColumnOnlyIf he
  narrow _ he := (left.inRange_expectArity _).noColumnOnlyIf he
  unanswered e he _ := hfault e he
  unaskable := by
    rintro ⟨_, _, ⟨⟩⟩
  unmade _ rows _ _ he := (BuildSide.inRange_ofScan _ _ _ rows).noColumnOnlyIf he

/-- From every state that the stage can come to, a probe of a left row of its width emits rows of
its output width, and does not fail for a missing column. -/
theorem ends_probeRow (h : stage.Shaped) (hfault : ∀ e, stage.right.Fails e → fault e)
    (hleft : left.length = stage.descriptor.leftArity) :
    Ends (fun s => stage.Reached s.site ∧
        ∀ row ∈ s.emitted.toList, row.length = stage.descriptor.outputArity)
      (NoColumnOnlyIf fault) (stage.probeRow left) fun _ => True := by
  intro s ⟨hreached, hrows⟩
  have hslot := hreached.slot fun _ _ _ _ hside => h.offers hside
  obtain ⟨⟨-, hemitted⟩, -, herrs⟩ :=
    allows_probeRow (probes_shapeContract h hfault hleft) s ⟨hslot, hrows⟩
  exact ⟨⟨.probed left s hreached, hemitted⟩, fun _ _ => trivial, herrs⟩

theorem ends_collect (h : stage.Shaped) (hfault : ∀ e, stage.right.Fails e → fault e)
    {rows : List Row} (hrows : ∀ left ∈ rows, left.length = stage.descriptor.leftArity) :
    Ends (fun s => stage.Reached s.site) (NoColumnOnlyIf fault)
      (Probe.collect (rows.forM stage.probeRow))
      fun out => ∀ row ∈ out, row.length = stage.descriptor.outputArity := by
  have hall : Ends (fun s : ProbeState => stage.Reached s.site ∧
        ∀ row ∈ s.emitted.toList, row.length = stage.descriptor.outputArity)
      (NoColumnOnlyIf fault) (rows.forM stage.probeRow) fun _ => ∀ left ∈ rows, True :=
    ends_forM fun left member => ends_probeRow h hfault (hrows left member)
  exact hall.collect (fun _ hs => ⟨hs, by simp⟩) fun _ ht => ht

end JoinStage

namespace JoinChain

/-- Every stage was made for its rows, from some width of left rows on. -/
inductive ShapedFrom : Nat → List JoinStage → Prop where
  | nil (width : Nat) : ShapedFrom width []
  | cons {width : Nat} {stage : JoinStage} {stages : List JoinStage} :
      stage.Shaped → stage.descriptor.leftArity = width →
      ShapedFrom (width + stage.descriptor.rightArity) stages → ShapedFrom width (stage :: stages)

def widthBehind (width : Nat) (stages : List JoinStage) : Nat :=
  stages.foldl (fun width stage => width + stage.descriptor.rightArity) width

theorem ShapedFrom.checkWidths {width : Nat} {stages : List JoinStage} (h : ShapedFrom width stages)
    (position : Nat) : checkWidths position width stages = .ok () := by
  induction h generalizing position with
  | nil => rfl
  | cons _ hleft _ ih =>
      unfold JoinChain.checkWidths
      rw [if_neg (not_not_intro hleft)]
      exact ih (position + 1)

variable [KeyHasher]

/-- The left rows that the stages are handed while rows are pushed through them. -/
inductive Handed : List JoinStage → List Site → List Row → Session → JoinStage → Row → Prop where
  | here {stage : JoinStage} {stages : List JoinStage} {sites : List Site} {rows : List Row}
      {session : Session} {left : Row} :
      left ∈ rows → Handed (stage :: stages) sites rows session stage left
  | behind {stage other : JoinStage} {stages : List JoinStage} {site : Site} {sites : List Site}
      {rows next : List Row} {session : Session} {t : StageState} {left : Row} :
      Probe.collect (rows.forM stage.probeRow) ⟨session, site⟩ = (.ok next, t) →
      Handed stages sites next t.session other left →
      Handed (stage :: stages) (site :: sites) rows session other left

section

variable {fault : JoinError → Prop} {width : Nat} {stages : List JoinStage}

/-- Every stage is handed rows of the width it was made for. -/
theorem ShapedFrom.handed (h : ShapedFrom width stages) {sites : List Site}
    (hsites : List.Forall₂ JoinStage.Reached stages sites) {rows : List Row}
    (hrows : ∀ row ∈ rows, row.length = width) {session : Session} {stage : JoinStage} {left : Row}
    (hhanded : Handed stages sites rows session stage left) :
    stage.Shaped ∧ left.length = stage.descriptor.leftArity := by
  induction hhanded generalizing width with
  | here member =>
      cases h with
      | cons hstage hleft _ => exact ⟨hstage, (hrows _ member).trans hleft.symm⟩
  | @behind stage _ _ site _ rows _ session _ _ hcollect _ ih =>
      cases h with
      | cons hstage hleft hstages =>
          cases hsites with
          | cons hsite hsites =>
              subst hleft
              have hany (e : JoinError) (_ : stage.right.Fails e) : True := trivial
              have hends := JoinStage.ends_collect hstage hany hrows ⟨session, site⟩ hsite
              rw [hcollect] at hends
              exact ih hstages hsites (hends.2.1 _ rfl)

/-- Rows pushed through stages have the width behind them, and nothing fails for a missing
column. -/
theorem ShapedFrom.push (h : ShapedFrom width stages)
    (hfault : ∀ stage ∈ stages, ∀ e, stage.right.Fails e → fault e) {sites : List Site}
    (hsites : List.Forall₂ JoinStage.Reached stages sites) {rows : List Row}
    (hrows : ∀ row ∈ rows, row.length = width) (session : Session) :
    List.Forall₂ JoinStage.Reached stages (push stages sites rows session).2.1 ∧
      (∀ out, (push stages sites rows session).1 = .ok out →
        ∀ row ∈ out, row.length = widthBehind width stages) ∧
      ∀ e, (push stages sites rows session).1 = .error e → NoColumnOnlyIf fault e := by
  induction h generalizing sites rows session with
  | nil width =>
      cases hsites
      refine ⟨.nil, fun out hout => ?_, fun e he => nomatch he⟩
      obtain rfl := Except.ok.inj hout
      exact hrows
  | @cons width stage stages hstage hleft hstages ih =>
      have hrest : ∀ other ∈ stages, ∀ e, other.right.Fails e → fault e :=
        fun other member => hfault other (List.mem_cons_of_mem stage member)
      cases hsites with
      | @cons _ site _ sites hsite hsites =>
          subst hleft
          have hends := JoinStage.ends_collect hstage (hfault stage List.mem_cons_self) hrows
            ⟨session, site⟩ hsite
          unfold JoinChain.push
          cases hcollect : Probe.collect (rows.forM stage.probeRow) ⟨session, site⟩ with
          | mk result t =>
              rw [hcollect] at hends
              obtain ⟨hreached, hnext, herrs⟩ := hends
              cases result with
              | error e =>
                  refine ⟨.cons hreached hsites, fun out hout => (nomatch hout), fun f hf => ?_⟩
                  obtain rfl := Except.error.inj hf
                  exact herrs e rfl
              | ok next =>
                  cases next with
                  | nil =>
                      refine ⟨.cons hreached hsites, fun out hout => ?_, fun e he => nomatch he⟩
                      obtain rfl := Except.ok.inj hout
                      simp
                  | cons row rest =>
                      obtain ⟨hkept, hout, hfailed⟩ := ih hrest hsites (hnext _ rfl) t.session
                      exact ⟨.cons hreached hkept, hout, hfailed⟩

end

end JoinChain

end JoinEngine
