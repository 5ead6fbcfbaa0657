import JoinEngine.Proofs.Exec.SideBySide

/-!
The materialized side as a cache. A stage keeps the side it made for the probes to come, drops it
on a release and on a cancelled run, and makes it again when it is next needed. None of this can be
seen in what the calls of the stage give: over a relation that is out of reach now and then, every
call that is answered gives what it would give on a new stage over the same relation always within
reach.
-/

namespace JoinEngine

theorem RightRelation.Answers.agrees {right : RightRelation} {rows : List Row}
    {found : List Value → Except JoinError (List Row)} {fault : JoinError → Prop}
    (h : right.Answers (.ok rows) found fault) : right.Agrees rows := by
  intro n answer hanswer
  rcases h.scan n with hrows | ⟨e, -, herror⟩
  · rw [hrows] at hanswer
    exact (Except.ok.inj hanswer).symm
  · rw [herror] at hanswer
    cases hanswer

inductive StageCall where
  /-- Join one row into a buffer. -/
  | probe (left : Row) (out : Array Row)
  | execute (input : List Pull)
  | release

/-- What a call gives: how it ends, and the rows in its buffer. -/
structure CallResult where
  outcome : Except JoinError Unit
  rows : List Row

/-- A run gives no rows if it fails. -/
def CallResult.ofRun (result : Except JoinError (List Row)) : CallResult :=
  ⟨result.map fun _ => (), result.toOption.getD []⟩

namespace JoinStage

section

variable [KeyHasher]

def call (stage : JoinStage) (s : StageState) : StageCall → CallResult × StageState
  | .probe left out =>
    let (outcome, t) := stage.probeRow left ⟨s.session, s.site, out⟩
    (⟨outcome, t.emitted.toList⟩, ⟨t.session, t.site⟩)
  | .execute input =>
    let (result, t) := stage.execute input s
    (CallResult.ofRun result, t)
  | .release => (⟨.ok (), []⟩, s.release)

/-- The states a stage can be in between its calls. What the query shares may change between
them in any way. -/
inductive Visited (stage : JoinStage) : StageState → Prop where
  | fresh (session : Session) : Visited stage ⟨session, {}⟩
  | called (c : StageCall) {s : StageState} : Visited stage s → Visited stage (stage.call s c).2
  | elsewhere (session : Session) {s : StageState} :
      Visited stage s → Visited stage { s with session }

/-- Joining the row takes a materialized side: there is one to be made, and matching by key the
row has a key. -/
def NeedsSide (stage : JoinStage) (left : Row) : Prop :=
  stage.access = .materialized ∧
    (stage.mode = .hashProbe → stage.descriptor.leftKey left ≠ none)

section

variable {stage : JoinStage}

open Run

theorem reached_execute (input : List Pull) {s : StageState} (h : stage.Reached s.site) :
    stage.Reached (stage.execute input s).2.site := by
  have hrow (left : Row) : Ends (fun s : ProbeState => stage.Reached s.site) (fun _ => True)
      (stage.probeRow left) fun _ => True :=
    fun s hs => ⟨.probed left s hs, fun _ _ => trivial, fun _ _ => trivial⟩
  have hpull (p : Pull) : Ends (fun s : ProbeState => stage.Reached s.site) (fun _ => True)
      (Probe.pull p) fun _ => True := by
    unfold Probe.pull
    have hitem : Ends (fun s : ProbeState => stage.Reached s.site) (fun _ => True)
        (liftM p.item : Probe Row) fun _ => True :=
      ends_lift (fun _ _ => trivial) fun _ _ => trivial
    split
    · exact (ends_modify fun _ hs => hs).bind fun _ _ => hitem
    · exact hitem
  have hall := ends_forM fun p (_ : p ∈ input) => (hpull p).bind fun left _ => hrow left
  have hcollect : Ends (fun s : StageState => stage.Reached s.site) (fun _ => True)
      (Probe.collect (input.forM fun p => do let left ← Probe.pull p; stage.probeRow left))
      fun _ => True :=
    hall.collect (fun _ hs => hs) fun _ hs => ⟨hs, trivial⟩
  exact (hcollect.releasing (fun _ hs => .released hs) s h).1

theorem reached_call (c : StageCall) {s : StageState} (h : stage.Reached s.site) :
    stage.Reached (stage.call s c).2.site := by
  cases c with
  | probe left out => exact .probed left ⟨s.session, s.site, out⟩ h
  | execute input => exact reached_execute input h
  | release => exact .released h

theorem Visited.reached {s : StageState} (h : stage.Visited s) : stage.Reached s.site := by
  induction h with
  | fresh => exact .fresh
  | called c _ ih => exact reached_call c ih
  | elsewhere _ _ ih => exact ih

end

section

variable {stage fresh : JoinStage} {scanned : Except JoinError (List Row)}
  {found : List Value → Except JoinError (List Row)} {fault : JoinError → Prop}

/-- The calls of two stages side by side give the same, unless a call of the first to its
relation fails. -/
theorem call_matches (h : stage.Mirrors fresh scanned found fault) (c : StageCall)
    {s t : StageState}
    (hst : stage.Aligned fresh .shared scanned (s.session.calls.of stage.relation) s.probing
      t.probing) :
    (stage.call s c).1 = (fresh.call t c).1 ∨
      ∃ e, fault e ∧ (stage.call s c).1.outcome = .error e ∧
        stage.right.FailsBetween (s.session.calls.of stage.relation)
          ((stage.call s c).2.session.calls.of stage.relation) e := by
  cases c with
  | probe left out =>
      have hout : stage.Aligned fresh .shared scanned (s.session.calls.of stage.relation)
          ⟨s.session, s.site, out⟩ ⟨t.session, t.site, out⟩ := { hst with emitted := rfl }
      rcases probeRow_matches h left _ _ hout with
        ⟨houtcome, hafter⟩ | ⟨e, herror, hnever | ⟨hfault, hfails⟩⟩
      · have hrows := congrArg Array.toList hafter.emitted
        have hresult := congr (congrArg CallResult.mk houtcome) hrows
        exact Or.inl hresult
      · exact hnever.elim
      · exact Or.inr ⟨e, hfault, herror, hfails⟩
  | execute input =>
      rcases execute_matches h input s t hst with
        ⟨hresult, -⟩ | ⟨e, herror, hnever | ⟨hfault, hfails⟩⟩
      · exact Or.inl (congrArg CallResult.ofRun hresult)
      · exact hnever.elim
      · have houtcome := congrArg (Except.map fun _ => ()) herror
        exact Or.inr ⟨e, hfault, houtcome, hfails⟩
  | release => exact Or.inl rfl

end

def countEmitted (stage : JoinStage) (before : Nat) : Probe Unit := do
  let t ← get
  if 0 < t.emitted.size - before then
    stage.count (Counters.emitted (t.emitted.size - before))

section

variable {stage : JoinStage} {left : Row}

open Run

def keptContract (build : SharedBuild) (calls : CallLog) : ProbeContract where
  inv s := s.site.build = build ∧ s.session.calls = calls

omit [KeyHasher] in
theorem tests_keptContract (build : SharedBuild) (calls : CallLog) :
    stage.Tests left (keptContract build calls) where
  counted _ _ hs := hs
  evaluated _ hs := hs
  emitted _ _ _ hs := hs
  cancelled := trivial
  untested _ _ _ _ _ _ := trivial

omit [KeyHasher] in
theorem count_apply (stage : JoinStage) (change : Counters → Counters) (s : ProbeState) :
    ∃ counters, stage.count change s = (.ok (), { s with site := { s.site with counters } }) := by
  have hcount : stage.count change s =
      (.ok (), if stage.config.collectMetrics then
        { s with site := { s.site with counters := change s.site.counters } } else s) := rfl
  rw [hcount]
  split
  · exact ⟨_, rfl⟩
  · exact ⟨_, rfl⟩

/-- Making the side asks for one scan, and its answer decides. -/
theorem makeSide_apply (stage : JoinStage) (s : ProbeState) :
    ∃ t, stage.makeSide s =
        (stage.right.scan (s.session.calls.of stage.relation).scans >>= stage.sideOf, t) ∧
      t.site.build = s.site.build ∧ t.emitted = s.emitted ∧
      (t.session.calls.of stage.relation).scans =
        (s.session.calls.of stage.relation).scans + 1 := by
  obtain ⟨counters, hcount⟩ := stage.count_apply Counters.scan s
  let t : ProbeState := {
    session := { s.session with
      calls := s.session.calls.modify stage.relation fun c => { c with scans := c.scans + 1 } }
    site := { s.site with counters }
    emitted := s.emitted }
  have hscans : (t.session.calls.of stage.relation).scans =
      (s.session.calls.of stage.relation).scans + 1 := by
    simp only [t, CallLog.of_modify]
  have hscan : stage.scanRight s =
      (stage.right.scan (s.session.calls.of stage.relation).scans, t) := by
    unfold scanRight
    rw [bind_apply, hcount]
    rfl
  unfold makeSide
  rw [bind_apply, hscan]
  cases stage.right.scan (s.session.calls.of stage.relation).scans with
  | error e => exact ⟨t, rfl, rfl, rfl, hscans⟩
  | ok rows =>
      change ∃ u, ((liftM (stage.sideOf rows) : Probe BuildSide) >>= fun side => do
        stage.count (Counters.build side.size)
        return side) t = (stage.sideOf rows, u) ∧ _
      cases stage.sideOf rows with
      | error e => exact ⟨t, rfl, rfl, rfl, hscans⟩
      | ok side =>
          obtain ⟨built, hbuilt⟩ := stage.count_apply (Counters.build side.size) t
          refine ⟨{ t with site := { t.site with counters := built } }, ?_, rfl, rfl, hscans⟩
          change ((stage.count (Counters.build side.size) >>= fun _ => pure side) :
            Probe BuildSide) t = _
          rw [bind_apply, hbuilt]
          rfl

/-- A row that needs the side is joined with the side once that is there, by steps that leave
slot and calls alone. -/
theorem joinLeft_of_needsSide (h : stage.NeedsSide left) :
    ∃ rest : BuildSide → Probe Unit, stage.joinLeft left = stage.side >>= rest ∧
      ∀ side build calls, (keptContract build calls).Allows (rest side) := by
  obtain ⟨haccess, hkey⟩ := h
  unfold joinLeft
  cases hmode : stage.mode with
  | hashProbe =>
      cases hleft : stage.descriptor.leftKey left with
      | none => exact absurd hleft (hkey hmode)
      | some key =>
          refine ⟨_, by simp only [probeKeyed, hleft, haccess]; rfl, fun side build calls => ?_⟩
          exact allows_testEqual (tests_keptContract build calls) fun _ _ => trivial
  | fullScan =>
      refine ⟨fun side => side.arena.rows.zipIdx.forM fun entry => do
        checkAt entry.2
        stage.emitIf (some stage.descriptor.condition) left entry.1, ?_, fun side build calls => ?_⟩
      · simp only [probeAll_eq, allRight, haccess, bind_assoc, pure_bind]
      · exact allows_testAll (tests_keptContract build calls) fun _ _ => trivial

omit [KeyHasher] in
theorem allows_countEmitted {c : ProbeContract} (h : stage.Tests left c) (before : Nat) :
    c.Allows (stage.countEmitted before) := by
  apply ends_get
  intro t _
  split
  · exact allows_count h _
  · exact ends_pure trivial

/-- After its checks a probe counts itself, joins the row and counts the rows. -/
theorem probeRow_of_checked {s : ProbeState} (hcheck : s.session.check = .ok ())
    (hleft : left.length = stage.descriptor.leftArity) :
    ∃ counters, stage.probeRow left s =
      (stage.joinLeft left >>= fun _ => stage.countEmitted s.emitted.size)
        { s with site := { s.site with counters } } := by
  obtain ⟨counters, hcount⟩ := stage.count_apply Counters.probe s
  refine ⟨counters, ?_⟩
  have hchecked : Probe.check s = (.ok (), s) := by
    rw [Probe.check_apply, hcheck]
  have hwidth : (left.expectArity stage.descriptor.leftArity).mapError JoinError.shape =
      .ok () := by
    unfold Row.expectArity
    rw [if_pos hleft]
    rfl
  have hexpected : (liftM ((left.expectArity stage.descriptor.leftArity).mapError
      JoinError.shape) : Probe Unit) s = (.ok (), s) := by
    rw [hwidth]
    rfl
  rw [probeRow_eq, bind_apply, hchecked]
  simp only
  rw [bind_apply, hexpected]
  simp only
  rw [bind_apply, hcount]
  simp only
  rw [Probe.get_bind_apply]
  rfl

/-- A probe that passes the checks, needs the side and finds the slot empty scans the relation
once. The side that the scan makes is then in the slot; if none can be made, the probe fails for
that reason, and the slot stays empty. -/
theorem probeRow_builds {s : ProbeState} (hcheck : s.session.check = .ok ())
    (hleft : left.length = stage.descriptor.leftArity) (hneeds : stage.NeedsSide left)
    (hempty : s.site.build.side = none) :
    let n := (s.session.calls.of stage.relation).scans
    let t := (stage.probeRow left s).2
    (t.session.calls.of stage.relation).scans = n + 1 ∧
      (∀ side, (stage.right.scan n >>= stage.sideOf) = .ok side →
        t.site.build.side = some side) ∧
      ∀ e, (stage.right.scan n >>= stage.sideOf) = .error e →
        (stage.probeRow left s).1 = .error e ∧ t.emitted = s.emitted ∧
          t.site.build.side = none := by
  obtain ⟨counters, hprobe⟩ := probeRow_of_checked hcheck hleft
  obtain ⟨rest, hjoin, hrest⟩ := joinLeft_of_needsSide hneeds
  obtain ⟨t, hmake, -, hemitted, hscans⟩ :=
    stage.makeSide_apply { s with site := { s.site with counters } }
  have hside := stage.side_apply { s with site := { s.site with counters } }
  simp only [hempty, hmake] at hside
  rw [hjoin, bind_assoc, bind_apply, hside] at hprobe
  rw [hprobe]
  simp only at hemitted hscans ⊢
  cases stage.right.scan (s.session.calls.of stage.relation).scans >>= stage.sideOf with
  | error e =>
      refine ⟨hscans, fun side hmade => (nomatch hmade), fun f hf => ?_⟩
      obtain rfl := Except.error.inj hf
      exact ⟨rfl, hemitted, rfl⟩
  | ok side =>
      have htests : stage.Tests left (keptContract ⟨some side⟩ t.session.calls) :=
        tests_keptContract _ _
      have hafter := (hrest side ⟨some side⟩ t.session.calls).bind fun _ _ =>
        allows_countEmitted htests s.emitted.size
      have hkept := (hafter { t with site := { t.site with build := ⟨some side⟩ } } ⟨rfl, rfl⟩).1
      refine ⟨?_, fun other hother => ?_, fun e he => nomatch he⟩
      · have hcalls := congrArg (fun log => (CallLog.of log stage.relation).scans) hkept.2
        exact hcalls.trans hscans
      · obtain rfl := Except.ok.inj hother
        exact congrArg SharedBuild.side hkept.1

end

section

variable {d : JoinDescriptor} {right : RightRelation} {config : JoinConfig} {relation : Nat}
  {stage : JoinStage} {rows : List Row} {found : List Value → Except JoinError (List Row)}

omit [KeyHasher] in
/-- A stage is created of its parts alone, over a relation that ends and has the columns. -/
theorem create_eq_ok_iff : create d right config relation = .ok stage ↔
    right.isUnbounded = false ∧ right.arity = d.rightArity ∧
      stage = ⟨d, right, config, modeOf d, (accessTo d (modeOf d) right).1,
        (accessTo d (modeOf d) right).2, relation⟩ := by
  unfold create
  rw [check_eq_ok_iff, check_eq_ok_iff, Bool.not_eq_true, Decidable.not_not, Except.ok.injEq,
    eq_comm (b := stage)]

/-- Over the same relation always within reach the same stage can be created, and it mirrors the
first. -/
theorem exists_mirror (hcreate : create d right config relation = .ok stage)
    {fault : JoinError → Prop} (hanswers : right.Answers (.ok rows) found fault) :
    ∃ fresh, create d (right.answering rows found) config relation = .ok fresh ∧
      stage.Mirrors fresh (.ok rows) found fault := by
  obtain ⟨hbounded, harity, rfl⟩ := create_eq_ok_iff.mp hcreate
  have haccess : accessTo d (modeOf d) (right.answering rows found) =
      accessTo d (modeOf d) right := by
    cases right <;> rfl
  have hkind : (right.answering rows found).kind = right.kind := by
    cases right <;> rfl
  have hname : (right.answering rows found).name = right.name := by
    cases right <;> rfl
  have hwidth : (right.answering rows found).arity = right.arity := by
    cases right <;> rfl
  have hends : (right.answering rows found).isUnbounded = right.isUnbounded := by
    cases right <;> rfl
  refine ⟨_, create_eq_ok_iff.mpr ⟨hends.trans hbounded, hwidth.trans harity, rfl⟩, ?_⟩
  rw [haccess]
  refine ⟨rfl, rfl, rfl, rfl, hkind, hname, Or.inr ?_, hanswers, right.answering_answers rows found⟩
  change SidesAlike (sideOf _ rows) (sideOf _ rows)
  simp only [sideOf, BuildSide.ofScan, indexColumns, hname, hwidth]
  exact sidesAlike_refl _

/-- The materialized side is a transparent cache. However a stage has been called so far, a call
gives what it gives on a new stage over the relation always within reach, unless the relation
fails the call itself. The slot holds no side but the one that the relation's rows make. And a
probe that needs the side and finds none makes it, or fails and leaves the slot empty for the
next. -/
theorem call_as_on_new_stage {s : StageState}
    (hcreate : create d right config relation = .ok stage)
    (hanswers : right.Answers (.ok rows) found JoinError.IsTransport) (hvisited : stage.Visited s) :
    let callsOf (s : StageState) := s.session.calls.of relation
    let build (rows : List Row) := BuildSide.ofScan right stage.indexColumns config rows
    (∃ fresh, create d (right.answering rows found) config relation = .ok fresh ∧
      ∀ c : StageCall, (stage.call s c).1 = (fresh.call ⟨s.session, {}⟩ c).1 ∨
        ∃ e, e.IsTransport ∧ (stage.call s c).1.outcome = .error e ∧
          right.FailsBetween (callsOf s) (callsOf (stage.call s c).2) e) ∧
      (∀ side, s.site.build.side = some side → build rows = .ok side) ∧
      ∀ left out, s.session.check = .ok () → left.length = d.leftArity → stage.NeedsSide left →
        s.site.build.side = none →
          let made := right.scan (callsOf s).scans >>= build
          let t := (stage.call s (.probe left out)).2
          (callsOf t).scans = (callsOf s).scans + 1 ∧
            (∀ side, made = .ok side → t.site.build.side = some side) ∧
            ∀ e, made = .error e →
              (stage.call s (.probe left out)).1 = ⟨.error e, out.toList⟩ ∧
                t.site.build.side = none := by
  intro callsOf build
  have hslot : stage.SlotHolds rows s.site := hvisited.reached.slotHolds <| by
    obtain ⟨-, -, rfl⟩ := create_eq_ok_iff.mp hcreate
    exact hanswers.agrees
  obtain ⟨fresh, hfresh, hmirrors⟩ := exists_mirror hcreate hanswers
  obtain ⟨-, -, rfl⟩ := create_eq_ok_iff.mp hcreate
  refine ⟨⟨fresh, hfresh, fun c => ?_⟩, hslot, fun left out hcheck hleft hneeds hempty => ?_⟩
  · apply call_matches hmirrors
    exact ⟨.same (Session.sameToken_refl _), rfl, hslot, fun side hside => (nomatch hside),
      Calls.upTo_refl _⟩
  · obtain ⟨hscans, hmade, hfailed⟩ :=
      probeRow_builds (s := ⟨s.session, s.site, out⟩) hcheck hleft hneeds hempty
    refine ⟨hscans, hmade, fun e he => ?_⟩
    obtain ⟨houtcome, hemitted, hstill⟩ := hfailed e he
    have hrows := congrArg Array.toList hemitted
    have hresult := congr (congrArg CallResult.mk houtcome) hrows
    exact ⟨hresult, hstill⟩

end

end

/-- A relation that is out of reach at the first scan: the probe fails, the next one makes the
side and joins, and a third reads the side that is there. -/
theorem call_after_failed_build :
    let rows : List Row := [[.int32 1], [.null], [.int32 1]]
    let down : JoinError := .transport "r" true "down"
    let right : RightRelation :=
      .bounded ⟨"r", 1, false, fun n => if n = 0 then .error down else .ok rows⟩
    let d : JoinDescriptor := ⟨[0], [0], none, .columnsEqual 0 1, 1, 1⟩
    let probe : StageCall := .probe [.int64 1] #[]
    ∃ stage s t, create d right {} 0 = .ok stage ∧
      s = (stage.call ⟨{}, {}⟩ probe).2 ∧ t = (stage.call s probe).2 ∧
      (stage.call ⟨{}, {}⟩ probe).1 = ⟨.error down, []⟩ ∧ s.site.build.side = none ∧
      (∃ side, t.site.build.side = some side ∧
        BuildSide.ofScan right (some [0]) {} rows = .ok side) ∧
      (t.session.calls.of 0).scans = 2 ∧
      ∃ fresh, create d (.bounded ⟨"r", 1, false, fun _ => .ok rows⟩) {} 0 = .ok fresh ∧
        (stage.call t probe).1 = (fresh.call ⟨t.session, {}⟩ probe).1 := by
  intro rows down right d probe
  let stage : JoinStage := ⟨d, right, {}, .hashProbe, .materialized, [], 0⟩
  have hcreate : create d right {} 0 = .ok stage := rfl
  have hanswers : right.Answers (.ok rows) (fun _ => .ok []) JoinError.IsTransport := by
    refine ⟨fun n => ?_, fun source hsource => nomatch hsource⟩
    cases n with
    | zero => exact Or.inr ⟨down, ⟨_, _, _, rfl⟩, rfl⟩
    | succ n => exact Or.inl rfl
  have hneeds : stage.NeedsSide [.int64 1] := ⟨rfl, fun _ => by decide⟩
  have hchecked : ((stage.call ⟨{}, {}⟩ probe).2.session.check).toBool = true := by
    decide +kernel
  obtain ⟨-, -, hfirst⟩ := call_as_on_new_stage hcreate hanswers (.fresh {})
  obtain ⟨hscans, -, hfailed⟩ := hfirst [.int64 1] #[] rfl rfl hneeds rfl
  obtain ⟨hresult, hempty⟩ := hfailed down rfl
  have hs : stage.Visited (stage.call ⟨{}, {}⟩ probe).2 := .called probe (.fresh {})
  generalize hafter : (stage.call ⟨{}, {}⟩ probe).2 = s at hs hchecked hscans hempty
  have hcheck : s.session.check = .ok () := by
    cases hsession : s.session.check with
    | ok _ => rfl
    | error e => rw [hsession] at hchecked; cases hchecked
  obtain ⟨-, -, hsecond⟩ := call_as_on_new_stage hcreate hanswers hs
  obtain ⟨hagain, hmade, -⟩ := hsecond [.int64 1] #[] hcheck rfl hneeds hempty
  have ht : stage.Visited (stage.call s probe).2 := .called probe hs
  generalize hlater : (stage.call s probe).2 = t at ht hagain hmade
  have hbuilds : (BuildSide.ofScan right (some [0]) {} rows).toBool = true := by decide +kernel
  obtain ⟨side, hside⟩ : ∃ side, BuildSide.ofScan right (some [0]) {} rows = .ok side := by
    cases hbuild : BuildSide.ofScan right (some [0]) {} rows with
    | error e => rw [hbuild] at hbuilds; cases hbuilds
    | ok side => exact ⟨side, rfl⟩
  have honce : (s.session.calls.of 0).scans = 1 := hscans
  have hrows : right.scan (s.session.calls.of 0).scans = .ok rows := by
    rw [honce]
    rfl
  have hscanned := congrArg (· >>= BuildSide.ofScan right (some [0]) {}) hrows
  have hfilled : t.site.build.side = some side := hmade side (hscanned.trans hside)
  have htwice : (t.session.calls.of 0).scans = 2 := hagain.trans (congrArg (· + 1) honce)
  obtain ⟨⟨fresh, hfresh, hcalls⟩, -, -⟩ := call_as_on_new_stage hcreate hanswers ht
  refine ⟨stage, s, t, hcreate, hafter.symm, hlater.symm, hresult, hempty,
    ⟨side, hfilled, hside⟩, htwice, fresh, hfresh, ?_⟩
  rcases hcalls probe with hsame | ⟨e, -, -, ⟨n, hfrom, -, hscan⟩ | ⟨source, _, _, hsource, -⟩⟩
  · exact hsame
  · have htwo : 2 ≤ n := htwice ▸ hfrom
    have hok : right.scan n = .ok rows := if_neg (by omega)
    rw [hok] at hscan
    cases hscan
  · exact nomatch hsource

end JoinStage

end JoinEngine
