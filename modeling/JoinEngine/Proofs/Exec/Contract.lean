import JoinEngine.Proofs.Exec.Steps
import JoinEngine.Proofs.Relation.Answers

/-!
What the steps of a probe can do, said once. A `ProbeContract` is an invariant of the probe's
state together with the right rows a probe may take up and the errors it may fail with. If each
elementary step of joining a left row respects a contract, which `JoinStage.Probes` lists, then
so does the whole probe, whatever the mode, the access and the state of the query.
-/

namespace JoinEngine

/-- An invariant of a probe, the right rows it may take up, and the errors it may fail with. -/
structure ProbeContract where
  inv : ProbeState → Prop
  takes : Row → Prop := fun _ => True
  errs : JoinError → Prop := fun _ => True

abbrev ProbeContract.Allows {α : Type} (c : ProbeContract) (steps : Probe α)
    (post : α → Prop := fun _ => True) : Prop :=
  Run.Ends c.inv c.errs steps post

theorem ProbeContract.allows_forM {ι : Type} {c : ProbeContract} {items : List ι}
    {steps : ι → Probe Unit} (h : ∀ i ∈ items, c.Allows (steps i)) :
    c.Allows (items.forM steps) :=
  (Run.ends_forM h).imp fun _ _ => trivial

def BuildSide.Offers (side : BuildSide) (takes : Row → Prop) : Prop :=
  (∀ row ∈ side.arena.rows, takes row) ∧
    ∀ hash, ∀ position ∈ side.candidates hash, takes (side.arena.row position)

namespace JoinStage

variable {stage : JoinStage} {left : Row} {c : ProbeContract}

/-- Testing right rows that may be taken up respects the contract, step by step. -/
structure Tests (stage : JoinStage) (left : Row) (c : ProbeContract) : Prop where
  counted : ∀ s (change : Counters → Counters), c.inv s →
    c.inv { s with site := { s.site with counters := change s.site.counters } }
  evaluated : ∀ s, c.inv s → c.inv { s with session := s.session.countEvaluation }
  emitted : ∀ s right, c.takes right → c.inv s →
    c.inv { s with emitted := s.emitted.push (left ++ right) }
  cancelled : c.errs .cancelled
  untested : ∀ predicate right e, c.takes right →
    some predicate = stage.descriptor.residual ∨ predicate = stage.descriptor.condition →
    predicate.holds (left ++ right) = .error e → c.errs e

open Run

section

variable (h : stage.Tests left c)

include h

theorem allows_count (change : Counters → Counters) : c.Allows (stage.count change) := by
  apply ends_modify
  intro s hs
  split
  · exact h.counted s change hs
  · exact hs

theorem allows_check : c.Allows Probe.check := by
  apply ends_get
  intro s _
  apply ends_lift
  · intro _ _
    trivial
  · intro e he
    unfold Session.check at he
    split at he
    · obtain rfl := Except.error.inj he
      exact h.cancelled
    · cases he

theorem allows_checkAt (position : Nat) : c.Allows (checkAt position) := by
  unfold checkAt
  split
  · exact allows_check h
  · exact ends_pure trivial

theorem allows_emit {right : Row} (hright : c.takes right) :
    c.Allows (Probe.emit (left ++ right)) :=
  ends_modify fun s hs => h.emitted s right hright hs

/-- Testing the residual or the whole condition on a right row. -/
theorem allows_emitIf {predicate : Option Expr} {right : Row} (hright : c.takes right)
    (hpredicate : predicate = stage.descriptor.residual ∨
      predicate = some stage.descriptor.condition) :
    c.Allows (stage.emitIf predicate left right) := by
  cases predicate with
  | none => exact allows_emit h hright
  | some p =>
      have htest : c.Allows (Probe.holds p (left ++ right)) := by
        refine (ends_modify fun s hs => h.evaluated s hs).bind fun _ _ => ?_
        apply ends_lift
        · intro _ _
          trivial
        · intro e he
          exact h.untested p right e hright (hpredicate.imp id Option.some.inj) he
      refine htest.bind fun t _ => ?_
      cases t.isTrue with
      | true => exact allows_emit h hright
      | false => exact allows_count h _

theorem allows_emitIfEqual {right : Row} (hright : c.takes right) :
    c.Allows (stage.emitIfEqual left right) := by
  unfold emitIfEqual
  cases stage.keysMatch left right with
  | true => exact allows_emitIf h hright (Or.inl rfl)
  | false => exact ends_pure trivial

/-- Testing right rows one after the other. -/
theorem allows_testEqual {rows : List Row} (hrows : ∀ right ∈ rows, c.takes right) :
    c.Allows (rows.forM (stage.emitIfEqual left)) :=
  ProbeContract.allows_forM fun right member => allows_emitIfEqual h (hrows right member)

theorem allows_testAll {rows : List Row} (hrows : ∀ right ∈ rows, c.takes right) :
    c.Allows (rows.zipIdx.forM fun entry => do
      checkAt entry.2
      stage.emitIf (some stage.descriptor.condition) left entry.1) := by
  refine ProbeContract.allows_forM fun entry member => ?_
  refine (allows_checkAt h entry.2).bind fun _ _ => ?_
  exact allows_emitIf h (hrows _ (List.fst_mem_of_mem_zipIdx member)) (Or.inr rfl)

end

/-- Reading right rows from the relation respects the contract as well, step by step; of a
materialized side nothing is said. -/
structure Reads (stage : JoinStage) (left : Row) (c : ProbeContract) : Prop
    extends stage.Tests left c where
  called : ∀ s calls, c.inv s → c.inv { s with session := { s.session with calls } }
  expected : ∀ right, stage.expectRight right = .ok () → c.takes right
  unexpected : ∀ right e, stage.expectRight right = .error e → c.errs e
  narrow : ∀ e, (left.expectArity stage.descriptor.leftArity).mapError JoinError.shape = .error e →
    c.errs e
  unanswered : ∀ e, stage.right.Fails e → c.errs e
  unaskable : c.errs (.plan (.noLookups stage.right.name))

section

variable (h : stage.Reads left c)

include h

theorem allows_scanRight :
    c.Allows stage.scanRight fun rows => ∃ n, stage.right.scan n = .ok rows := by
  refine (allows_count h.toTests Counters.scan).bind fun _ _ => ends_get fun s _ => ?_
  refine (ends_modify fun t ht => h.called t _ ht).bind fun _ _ => ?_
  exact ends_lift (fun rows hrows => ⟨_, hrows⟩)
    fun e he => h.unanswered e (RightRelation.fails_of_scan he)

theorem allows_expectRight (right : Row) :
    c.Allows (liftM (stage.expectRight right)) fun _ => c.takes right :=
  ends_lift (fun _ hright => h.expected right hright) fun e he => h.unexpected right e he

theorem allows_rescan : c.Allows stage.rescan fun rows => ∀ right ∈ rows, c.takes right := by
  refine (allows_scanRight h).bind fun rows _ => ?_
  exact (ends_forM fun right _ => allows_expectRight h right).bind fun _ hrows => ends_pure hrows

theorem allows_lookUp {source : KeyedSource} (hsource : stage.right = .partitioned source)
    (key : List Value) : c.Allows (stage.lookUp source key) := by
  refine (allows_count h.toTests Counters.lookup).bind fun _ _ => ends_get fun s _ => ?_
  refine (ends_modify fun t ht => h.called t _ ht).bind fun _ _ => ?_
  exact ends_lift (fun _ _ => trivial)
    fun e he => h.unanswered e (RightRelation.fails_of_lookup hsource he)

end

variable [KeyHasher]

def sideOf (stage : JoinStage) (rows : List Row) : Except JoinError BuildSide :=
  BuildSide.ofScan stage.right stage.indexColumns stage.config rows

def allRight (stage : JoinStage) : Probe (List Row) :=
  match stage.access with
  | .rescan => stage.rescan
  | _ => do
    let side ← stage.side
    pure side.arena.rows

theorem probeAll_eq (stage : JoinStage) (left : Row) :
    stage.probeAll left = (do
      let found ← stage.allRight
      found.zipIdx.forM fun entry => do
        checkAt entry.2
        stage.emitIf (some stage.descriptor.condition) left entry.1) := by
  unfold probeAll allRight
  cases stage.access with
  | rescan => rfl
  | materialized | lookup =>
      simp only [bind_assoc, pure_bind]

/-- Join a left row that was checked and counted. -/
def joinLeft (stage : JoinStage) (left : Row) : Probe Unit :=
  match stage.mode with
  | .hashProbe => stage.probeKeyed left
  | .fullScan => stage.probeAll left

theorem probeRow_eq (stage : JoinStage) (left : Row) :
    stage.probeRow left = (do
      Probe.check
      liftM ((left.expectArity stage.descriptor.leftArity).mapError JoinError.shape)
      stage.count Counters.probe
      let s ← get
      stage.joinLeft left
      let t ← get
      if 0 < t.emitted.size - s.emitted.size then
        stage.count (Counters.emitted (t.emitted.size - s.emitted.size))) := by
  unfold probeRow joinLeft
  cases stage.mode <;> rfl

/-- The side a probe gets is the one in the slot; an empty slot is filled by a build that
succeeds and stays empty after one that fails. -/
theorem side_apply (stage : JoinStage) (s : ProbeState) :
    stage.side s =
      match s.site.build.side with
      | some side => (.ok side, s)
      | none =>
        match stage.makeSide s with
        | (.ok side, t) => (.ok side, { t with site := { t.site with build := ⟨some side⟩ } })
        | (.error e, t) => (.error e, { t with site := { t.site with build := {} } }) := by
  obtain ⟨session, ⟨⟨slot⟩, counters⟩, emitted⟩ := s
  cases slot with
  | some side => rfl
  | none =>
      cases hrun : stage.makeSide ⟨session, ⟨⟨none⟩, counters⟩, emitted⟩ with
      | mk result t =>
          -- a build that fails hands the empty slot back, whatever else it has changed
          have hbuild : SharedBuild.getOrBuild ⟨none⟩ stage.makeSide.run
              ⟨session, ⟨⟨none⟩, counters⟩, emitted⟩ =
                match result with
                | .ok side => ((.ok side, ⟨some side⟩), t)
                | .error e => ((.error e, {}), t) := by
            simp only [SharedBuild.getOrBuild, bind, StateT.bind, ExceptT.run, hrun]
            cases result <;> rfl
          unfold JoinStage.side
          rw [Probe.get_bind_apply, Probe.lift_bind_apply, hbuild]
          cases result <;> rfl

/-- Joining a left row respects the contract, step by step. -/
structure Probes (stage : JoinStage) (left : Row) (c : ProbeContract) : Prop
    extends stage.Tests left c where
  called : ∀ s calls, c.inv s → c.inv { s with session := { s.session with calls } }
  emptied : ∀ s, c.inv s → c.inv { s with site := { s.site with build := {} } }
  filled : ∀ s n rows side, stage.right.scan n = .ok rows → stage.sideOf rows = .ok side →
    c.inv s → c.inv { s with site := { s.site with build := ⟨some side⟩ } }
  held : ∀ s side, c.inv s → s.site.build.side = some side → side.Offers c.takes
  made : ∀ n rows side, stage.right.scan n = .ok rows → stage.sideOf rows = .ok side →
    side.Offers c.takes
  expected : ∀ right, stage.expectRight right = .ok () → c.takes right
  unexpected : ∀ right e, stage.expectRight right = .error e → c.errs e
  narrow : ∀ e, (left.expectArity stage.descriptor.leftArity).mapError JoinError.shape = .error e →
    c.errs e
  unanswered : ∀ e, stage.right.Fails e → c.errs e
  unaskable : c.errs (.plan (.noLookups stage.right.name))
  unmade : ∀ n rows e, stage.right.scan n = .ok rows → stage.sideOf rows = .error e → c.errs e

theorem Probes.reads (h : stage.Probes left c) : stage.Reads left c :=
  { h with }

/-- An invariant is a contract of its own if no step on the state breaks it; nothing is asked of
rows and errors. -/
theorem probes_of_kept {inv : ProbeState → Prop}
    (counted : ∀ s (change : Counters → Counters), inv s →
      inv { s with site := { s.site with counters := change s.site.counters } })
    (evaluated : ∀ s, inv s → inv { s with session := s.session.countEvaluation })
    (emitted : ∀ s row, inv s → inv { s with emitted := s.emitted.push row })
    (called : ∀ s calls, inv s → inv { s with session := { s.session with calls } })
    (emptied : ∀ s, inv s → inv { s with site := { s.site with build := {} } })
    (filled : ∀ s n rows side, stage.right.scan n = .ok rows → stage.sideOf rows = .ok side →
      inv s → inv { s with site := { s.site with build := ⟨some side⟩ } }) :
    stage.Probes left { inv } where
  counted := counted
  evaluated := evaluated
  emitted s right _ hs := emitted s (left ++ right) hs
  cancelled := trivial
  untested _ _ _ _ _ _ := trivial
  called := called
  emptied := emptied
  filled := filled
  held _ _ _ _ := ⟨fun _ _ => trivial, fun _ _ _ => trivial⟩
  made _ _ _ _ _ := ⟨fun _ _ => trivial, fun _ _ _ => trivial⟩
  expected _ _ := trivial
  unexpected _ _ _ := trivial
  narrow _ _ := trivial
  unanswered _ _ := trivial
  unaskable := trivial
  unmade _ _ _ _ _ := trivial

section

variable (h : stage.Reads left c)

include h

/-- A probe that matches by key respects the contract if getting the side does, where the access
asks for it. -/
theorem allows_probeKeyed
    (hside : stage.access = .materialized →
      c.Allows stage.side fun side => side.Offers c.takes) :
    c.Allows (stage.probeKeyed left) := by
  unfold probeKeyed
  split
  next => exact allows_count h.toTests _
  next key _ =>
    split
    next source _ hsource =>
      refine (allows_check h.toTests).bind fun _ _ => ?_
      refine (allows_lookUp h hsource _).bind fun rows _ => ?_
      refine ProbeContract.allows_forM fun right _ => ?_
      exact (allows_expectRight h right).bind fun _ hright => allows_emitIfEqual h.toTests hright
    next => exact ends_throw h.unaskable
    next =>
      exact (allows_rescan h).bind fun rows hrows => allows_testEqual h.toTests hrows
    next haccess =>
      refine (hside haccess).bind fun side hside => ?_
      refine allows_testEqual h.toTests fun right member => ?_
      obtain ⟨position, hposition, rfl⟩ := List.mem_map.mp member
      exact hside.2 _ position hposition

theorem allows_allRight
    (hside : stage.access ≠ .rescan → c.Allows stage.side fun side => side.Offers c.takes) :
    c.Allows stage.allRight fun rows => ∀ right ∈ rows, c.takes right := by
  unfold allRight
  split
  next => exact allows_rescan h
  next hrescan => exact (hside hrescan).bind fun side hside => ends_pure hside.1

theorem allows_probeAll
    (hside : stage.access ≠ .rescan → c.Allows stage.side fun side => side.Offers c.takes) :
    c.Allows (stage.probeAll left) := by
  rw [probeAll_eq]
  exact (allows_allRight h hside).bind fun rows hrows => allows_testAll h.toTests hrows

/-- A probe respects a contract if joining the checked row does. -/
theorem allows_probeRow_of_joinLeft (hjoin : c.Allows (stage.joinLeft left)) :
    c.Allows (stage.probeRow left) := by
  rw [probeRow_eq]
  refine (allows_check h.toTests).bind fun _ _ => ?_
  refine Ends.bind (ends_lift (fun _ _ => trivial) h.narrow) fun _ _ => ?_
  refine (allows_count h.toTests Counters.probe).bind fun _ _ => ends_get fun s _ => ?_
  refine hjoin.bind fun _ _ => ends_get fun t _ => ?_
  split
  · exact allows_count h.toTests _
  · exact ends_pure trivial

/-- A probe respects a contract that reading right rows respects, if getting the side does. -/
theorem allows_probeRow_of_side (hside : c.Allows stage.side fun side => side.Offers c.takes) :
    c.Allows (stage.probeRow left) := by
  apply allows_probeRow_of_joinLeft h
  unfold joinLeft
  cases stage.mode with
  | hashProbe => exact allows_probeKeyed h fun _ => hside
  | fullScan => exact allows_probeAll h fun _ => hside

end

section

variable (h : stage.Probes left c)

include h

theorem allows_makeSide : c.Allows stage.makeSide fun side =>
    ∃ n rows, stage.right.scan n = .ok rows ∧ stage.sideOf rows = .ok side := by
  refine (allows_scanRight h.reads).bind fun rows ⟨n, hrows⟩ => ?_
  refine Ends.bind (ends_lift (fun side hside => hside) fun e he => h.unmade n rows e hrows he)
    fun side hside => ?_
  exact (allows_count h.toTests _).bind fun _ _ => ends_pure ⟨n, rows, hrows, hside⟩

theorem allows_side : c.Allows stage.side fun side => side.Offers c.takes := by
  intro s hs
  rw [side_apply]
  cases hslot : s.site.build.side with
  | some side =>
      refine ⟨hs, fun other hother => ?_, fun e he => nomatch he⟩
      obtain rfl := Except.ok.inj hother
      exact h.held s side hs hslot
  | none =>
      obtain ⟨hinv, hmade, herrs⟩ := allows_makeSide h s hs
      cases hrun : stage.makeSide s with
      | mk result t =>
          rw [hrun] at hinv hmade herrs
          cases result with
          | error e =>
              refine ⟨h.emptied t hinv, fun side hside => (nomatch hside), fun f hf => ?_⟩
              obtain rfl := Except.error.inj hf
              exact herrs e rfl
          | ok side =>
              obtain ⟨n, rows, hrows, hside⟩ := hmade side rfl
              refine ⟨h.filled t n rows side hrows hside hinv, fun other hother => ?_,
                fun e he => nomatch he⟩
              obtain rfl := Except.ok.inj hother
              exact h.made n rows side hrows hside

/-- A probe respects every contract that its steps respect. -/
theorem allows_probeRow : c.Allows (stage.probeRow left) :=
  allows_probeRow_of_side h.reads (allows_side h)

end

end JoinStage

end JoinEngine
