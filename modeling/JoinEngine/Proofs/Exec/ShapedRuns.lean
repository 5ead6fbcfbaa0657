import JoinEngine.Proofs.Exec.Shape

/-!
Runs of a chain whose stages and projection were made for their rows. However the chain is run,
over rows one by one, over a whole input or on workers, its sites stay among those they can come
to, the rows that come out have the chain's output width, and no expression misses a column.
-/

namespace JoinEngine

open Run

theorem Session.inRange_check (s : Session) : InRange s.check := by
  unfold check
  split
  · exact inRange_error (by rintro ⟨_, _, ⟨⟩⟩)
  · exact inRange_ok ()

namespace Projection

variable {p : Projection} {width : Nat} {fault : JoinError → Prop}

theorem Within.accepts (h : p.Within width) {row : Row} (hrow : row.length = width) :
    Ends (fun _ => True) (NoColumnOnlyIf fault) (p.accepts row) fun _ => True := by
  unfold Projection.accepts
  cases hfilter : p.filter with
  | none => exact ends_pure trivial
  | some predicate =>
      have hpredicate : predicate.Within row.length := by
        rw [hrow]
        exact h predicate (by simp [hfilter])
      have htest : Ends (fun _ : Session => True) (NoColumnOnlyIf fault)
          (liftM (predicate.holds row)) fun _ => True :=
        ends_lift (fun _ _ => trivial) fun _ he => hpredicate.holds.noColumnOnlyIf he
      refine (ends_modify fun _ _ => trivial).bind fun _ _ => ?_
      exact htest.bind fun _ _ => ends_pure trivial

theorem Within.project (h : p.Within width) {row : Row} (hrow : row.length = width) :
    InRange (p.project row) := by
  unfold Projection.project
  split
  · exact inRange_ok row
  · refine inRange_mapM fun e member => Expr.Within.evaluate ?_
    rw [hrow]
    exact h e (List.mem_append_right _ member)

theorem Within.applyAll (h : p.Within width) {rows : List Row}
    (hrows : ∀ row ∈ rows, row.length = width) :
    Ends (fun _ => True) (NoColumnOnlyIf fault) (p.applyAll rows)
      fun out => ∀ row ∈ out, row.length = p.outputArity width := by
  have happly (row : Row) (hrow : row.length = width) :
      Ends (fun _ => True) (NoColumnOnlyIf fault) (p.apply row)
        fun out => ∀ made ∈ out, made.length = p.outputArity width := by
    refine (h.accepts hrow).bind fun accepted _ => ?_
    cases accepted with
    | false => exact ends_pure (by simp)
    | true =>
        have hmade (made : Row) (hproject : p.project row = .ok made) :
            made.length = p.outputArity width := by
          rw [← hrow]
          exact (makes_of_project hproject).length
        have hproject : Ends (fun _ : Session => True) (NoColumnOnlyIf fault)
            (liftM (p.project row)) fun made => made.length = p.outputArity width :=
          ends_lift hmade fun _ he => (h.project hrow).noColumnOnlyIf he
        exact hproject.bind fun made hwide => ends_pure (by simpa using hwide)
  induction rows with
  | nil => exact ends_pure (by simp)
  | cons row rest ih =>
      obtain ⟨hrow, hrest⟩ := List.forall_mem_cons.mp hrows
      refine (happly row hrow).bind fun projected hprojected => ?_
      refine (ih hrest).bind fun others hothers => ends_pure ?_
      rw [List.forall_mem_append]
      exact ⟨by simpa using hprojected, hothers⟩

end Projection

namespace Run

variable {σ α : Type} {inv : σ → Prop} {errs : JoinError → Prop} {good : Row → Prop}

theorem ends_append {first second : Run σ (List Row)}
    (hfirst : Ends inv errs first fun rows => ∀ row ∈ rows, good row)
    (hsecond : Ends inv errs second fun rows => ∀ row ∈ rows, good row) :
    Ends inv errs (do
      let rows ← first
      let others ← second
      return rows ++ others) fun rows => ∀ row ∈ rows, good row := by
  refine hfirst.bind fun rows hrows => hsecond.bind fun others hothers => ends_pure ?_
  exact List.forall_mem_append.mpr ⟨hrows, hothers⟩

/-- What workers gather is what they gave, or one of their failures. -/
theorem gather_ends {results : List (Except JoinError (List Row))}
    (h : ∀ result ∈ results, (∀ rows, result = .ok rows → ∀ row ∈ rows, good row) ∧
      ∀ e, result = .error e → errs e) :
    (∀ rows, gather results = .ok rows → ∀ row ∈ rows, good row) ∧
      ∀ e, gather results = .error e → errs e := by
  induction results with
  | nil =>
      refine ⟨fun rows hrows => ?_, fun e he => nomatch he⟩
      obtain rfl := Except.ok.inj hrows
      simp
  | cons result rest ih =>
      obtain ⟨⟨hrows, herrs⟩, hrest⟩ := List.forall_mem_cons.mp h
      obtain ⟨hothers, hfailed⟩ := ih hrest
      unfold gather
      cases result with
      | error e => exact ⟨fun rows hok => (nomatch hok), herrs⟩
      | ok rows =>
          cases hgather : gather rest with
          | error e =>
              rw [hgather] at hfailed
              exact ⟨fun rows hok => (nomatch hok), hfailed⟩
          | ok others =>
              refine ⟨fun all hall => ?_, fun e he => nomatch he⟩
              obtain rfl := Except.ok.inj hall
              exact List.forall_mem_append.mpr ⟨hrows rows rfl, hothers others hgather⟩

/-- Workers establish what the work on every batch establishes. -/
theorem ends_runPartitioned {work : List α → Run σ (List Row)}
    (h : ∀ batch, Ends inv errs (work batch) fun rows => ∀ row ∈ rows, good row)
    (parallelism : Nat) (partitions : List (List α)) :
    Ends inv errs (runPartitioned parallelism work partitions)
      fun rows => ∀ row ∈ rows, good row := by
  have hworker (batches : List (List α)) :
      Ends inv errs (runWorker work batches) fun rows => ∀ row ∈ rows, good row := by
    induction batches with
    | nil => exact ends_pure (by simp)
    | cons batch rest ih => exact ends_append (h batch) ih
  have hresults (hands : List (List (List α))) :
      Ends inv errs
        (liftM (hands.mapM fun hand => (runWorker work hand).run : StateM σ _) : Run σ _)
        fun results => ∀ result ∈ results,
          (∀ rows, result = .ok rows → ∀ row ∈ rows, good row) ∧
            ∀ e, result = .error e → errs e := by
    induction hands with
    | nil => exact ends_pure (by simp)
    | cons hand rest ih =>
        -- a worker's failure is one of the results, and the next worker goes on from its state
        intro s hs
        obtain ⟨hinv, hgood, herrs⟩ := hworker hand s hs
        obtain ⟨hkept, hothers, -⟩ := ih (runWorker work hand s).2 hinv
        rw [List.mapM_cons]
        refine ⟨hkept, fun results hok => ?_, fun e he => nomatch he⟩
        obtain rfl := Except.ok.inj hok
        exact List.forall_mem_cons.mpr ⟨⟨hgood, herrs⟩, hothers _ rfl⟩
  refine (hresults _).bind fun results hall => ?_
  exact ends_lift (gather_ends hall).1 (gather_ends hall).2

end Run

namespace JoinChain

variable [KeyHasher] {c : JoinChain} {fault : JoinError → Prop}

omit [KeyHasher] in
/-- Stages and projection were made for the rows they get. -/
structure Shaped (c : JoinChain) : Prop where
  stages : ShapedFrom c.baseArity c.stages
  projection : ∀ p, c.projection = some p → p.Within c.joinedArity

def SitesReached (c : JoinChain) (s : ChainState) : Prop :=
  List.Forall₂ JoinStage.Reached c.stages s.sites

theorem SitesReached.release {s : ChainState} (h : c.SitesReached s) :
    c.SitesReached s.release := by
  apply List.forall₂_map_right_iff.mpr
  exact h.imp fun _ _ hsite => hsite.released

/-- The steps keep the sites among those they can come to, give rows of the output width, and miss
no column but by a fault. -/
abbrev EndsInShape (c : JoinChain) (fault : JoinError → Prop) (steps : Run ChainState (List Row)) :
    Prop :=
  Ends c.SitesReached (NoColumnOnlyIf fault) steps fun out =>
    ∀ row ∈ out, row.length = c.outputArity

theorem Shaped.pushAll (h : c.Shaped)
    (hfault : ∀ stage ∈ c.stages, ∀ e, stage.right.Fails e → fault e) {row : Row}
    (hrow : row.length = c.baseArity) :
    Ends c.SitesReached (NoColumnOnlyIf fault) (c.pushAll [row])
      fun out => ∀ joined ∈ out, joined.length = c.joinedArity := by
  intro s hs
  have hone : ∀ left ∈ [row], left.length = c.baseArity := by simpa using hrow
  exact h.stages.push hfault hs hone s.session

theorem Shaped.processRow (h : c.Shaped)
    (hfault : ∀ stage ∈ c.stages, ∀ e, stage.right.Fails e → fault e) (row : Row) :
    c.EndsInShape fault (c.processRow row) := by
  have hfinish (rows : List Row) (hrows : ∀ joined ∈ rows, joined.length = c.joinedArity) :
      c.EndsInShape fault (c.finishRows rows) := by
    unfold finishRows EndsInShape outputArity
    cases hprojection : c.projection with
    | none => exact ends_pure hrows
    | some p =>
        intro s hs
        exact ⟨hs, ((h.projection p hprojection).applyAll hrows s.session trivial).2⟩
  have hcheck (session : Session) :
      Ends c.SitesReached (NoColumnOnlyIf fault) (liftM session.check) fun _ => True :=
    ends_lift (fun _ _ => trivial) fun _ he => session.inRange_check.noColumnOnlyIf he
  have hexpect : Ends c.SitesReached (NoColumnOnlyIf fault)
      (liftM ((row.expectArity c.baseArity).mapError JoinError.shape))
      fun _ => row.length = c.baseArity :=
    ends_lift (fun _ hok => Row.length_of_expectArity hok) fun _ he =>
      (row.inRange_expectArity c.baseArity).noColumnOnlyIf he
  refine ends_get fun s _ => (hcheck s.session).bind fun _ _ => hexpect.bind fun _ hrow => ?_
  exact (h.pushAll hfault hrow).bind hfinish

theorem Shaped.processAll (h : c.Shaped)
    (hfault : ∀ stage ∈ c.stages, ∀ e, stage.right.Fails e → fault e) {input : List Pull}
    (hinput : ∀ p ∈ input, ∀ e, p.item = .error e → fault e) :
    c.EndsInShape fault (c.processAll input) := by
  induction input with
  | nil => exact ends_pure (by simp)
  | cons p rest ih =>
      obtain ⟨hitem, hrest⟩ := List.forall_mem_cons.mp hinput
      have hpull : Ends c.SitesReached (NoColumnOnlyIf fault) (pull p) fun _ => True := by
        have hread : Ends c.SitesReached (NoColumnOnlyIf fault) (liftM p.item) fun _ => True :=
          ends_lift (fun _ _ => trivial) fun e he _ => hitem e he
        unfold pull
        cases p.cancels with
        | true => exact (ends_modify fun _ hs => hs).bind fun _ _ => hread
        | false => exact hread
      exact hpull.bind fun row _ => ends_append (h.processRow hfault row) (ih hrest)

/-- However the chain is run, every stage is handed left rows of the width it was made for, on
which its predicates find their columns, as filter and projection do on the rows behind the last
site; and a run gives rows of the output width, and misses no column unless the input or a right
relation fails that way itself. -/
structure RunsInShape (c : JoinChain) : Prop where
  handed : ∀ (s : ChainState) row, c.SitesReached s → row.length = c.baseArity →
    ∀ stage left, Handed c.stages s.sites [row] s.session stage left →
      left.length = stage.descriptor.leftArity ∧
        ∀ predicate right, some predicate = stage.descriptor.residual ∨
          predicate = stage.descriptor.condition →
          right.length = stage.descriptor.rightArity → InRange (predicate.holds (left ++ right))
  projected : ∀ (s : ChainState) row rows t, c.SitesReached s → row.length = c.baseArity →
    c.pushAll [row] s = (.ok rows, t) → ∀ joined ∈ rows, ∀ p, c.projection = some p →
      ∀ e ∈ p.filter.toList ++ p.exprs, InRange (e.evaluate joined)
  processRow : ∀ row, c.EndsInShape (fun e => ∃ stage ∈ c.stages, stage.right.Fails e)
    (c.processRow row)
  execute : ∀ input, c.EndsInShape
    (fun e => (∃ p ∈ input, p.item = .error e) ∨ ∃ stage ∈ c.stages, stage.right.Fails e)
    (c.execute input)
  executePartitioned : ∀ partitions, c.EndsInShape
    (fun e => ∃ stage ∈ c.stages, stage.right.Fails e) (c.executePartitioned partitions)

theorem Shaped.runs (h : c.Shaped) : c.RunsInShape where
  handed s row hs hrow stage left hhanded := by
    have hone : ∀ left ∈ [row], left.length = c.baseArity := by simpa using hrow
    obtain ⟨hstage, hleft⟩ := h.stages.handed hs hone hhanded
    exact ⟨hleft, fun _ _ hpredicate hright => hstage.inRange hpredicate hleft hright⟩
  projected s row rows t hs hrow hpush joined member p hp e he := by
    have hany (stage : JoinStage) (_ : stage ∈ c.stages) (e : JoinError) (_ : stage.right.Fails e) :
        True := trivial
    have hwide := (h.pushAll hany hrow s hs).2.1 rows (congrArg Prod.fst hpush) joined member
    apply Expr.Within.evaluate
    rw [hwide]
    exact h.projection p hp e he
  processRow row := h.processRow (fun stage member e he => ⟨stage, member, he⟩) row
  execute input := by
    refine Ends.releasing ?_ fun _ hs => hs.release
    refine h.processAll (fun stage member e he => ?_) fun p member e he => ?_
    · exact Or.inr ⟨stage, member, he⟩
    · exact Or.inl ⟨p, member, he⟩
  executePartitioned partitions := by
    refine Ends.releasing ?_ fun _ hs => hs.release
    refine ends_runPartitioned (fun batch => ?_) _ partitions
    refine h.processAll (fun stage member e he => ⟨stage, member, he⟩) fun p member e he => ?_
    obtain ⟨row, -, rfl⟩ := List.mem_map.mp member
    cases he

end JoinChain

end JoinEngine
