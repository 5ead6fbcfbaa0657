import JoinEngine.Job.Run
import JoinEngine.Proofs.Exec.Projected
import JoinEngine.Proofs.Exec.Turns
import JoinEngine.Proofs.Plan.Launch

/-!
The number of partitions and of workers of a job. Neither changes what the job gives, up to the
order of rows: a plan turns into the same chain but for the number of workers, all relations of
a job are held in memory, and so its driving rows are decided.
-/

namespace JoinEngine

/-- Both fail, or both give the same columns and sink, and the same rows in some order. -/
inductive SameOutput : Except JobError JobOutput → Except JobError JobOutput → Prop where
  | ok {a b : JobOutput} : a.columns = b.columns → a.sink = b.sink → a.rows.Perm b.rows →
      SameOutput (.ok a) (.ok b)
  | error (e f : JobError) : SameOutput (.error e) (.error f)

theorem SameOutput.symm {a b : Except JobError JobOutput} (h : SameOutput a b) :
    SameOutput b a := by
  cases h with
  | ok hcolumns hsink hrows => exact .ok hcolumns.symm hsink.symm hrows.symm
  | error e f => exact .error f e

theorem SameOutput.trans {a b c : Except JobError JobOutput} (h : SameOutput a b)
    (h' : SameOutput b c) : SameOutput a c := by
  cases h with
  | error e f =>
      cases h' with
      | error _ g => exact .error e g
  | ok hcolumns hsink hrows =>
      cases h' with
      | ok hcolumns' hsink' hrows' =>
          exact .ok (hcolumns.trans hcolumns') (hsink.trans hsink') (hrows.trans hrows')

theorem mapM_eq_map {α β γ ε : Type} {f : α → Except ε β} {f' : α → Except ε γ} {g : β → γ}
    (h : ∀ a, f' a = g <$> f a) (items : List α) :
    items.mapM f' = List.map g <$> items.mapM f := by
  induction items with
  | nil => rfl
  | cons a rest ih => simp [List.mapM_cons, h, ih]

/-- Every result is that of some item. -/
theorem exists_of_mem_mapM {α β : Type} {f : α → Except JoinError β} {items : List α}
    {results : List β} (h : items.mapM f = .ok results) {b : β} (member : b ∈ results) :
    ∃ a ∈ items, f a = .ok b := by
  have hall := Projection.forall₂_of_mapM h
  clear h
  induction hall with
  | nil => cases member
  | cons hfirst _ ih =>
      rcases List.mem_cons.mp member with rfl | hlater
      · exact ⟨_, List.mem_cons_self, hfirst⟩
      · obtain ⟨a, hmem, ha⟩ := ih hlater
        exact ⟨a, List.mem_cons_of_mem _ hmem, ha⟩

namespace JoinStage

def retuned (n : Nat) (stage : JoinStage) : JoinStage :=
  { stage with config := { stage.config with parallelism := n } }

/-- A probe has no use for the number of workers. -/
theorem probeRow_retuned [KeyHasher] (n : Nat) (stage : JoinStage) :
    (stage.retuned n).probeRow = stage.probeRow :=
  rfl

theorem create_retuned (n : Nat) (d : JoinDescriptor) (right : RightRelation)
    (config : JoinConfig) (relation : Nat) :
    create d right { config with parallelism := n } relation =
      retuned n <$> create d right config relation := by
  unfold create
  split
  · rfl
  · split <;> rfl

end JoinStage

namespace JoinChain

def retuned (n : Nat) (c : JoinChain) : JoinChain :=
  { c with stages := c.stages.map (JoinStage.retuned n), parallelism := max n 1 }

section

variable [KeyHasher]

theorem push_retuned (n : Nat) (stages : List JoinStage) (sites : List Site) (rows : List Row)
    (session : Session) :
    push (stages.map (JoinStage.retuned n)) sites rows session =
      push stages sites rows session := by
  induction stages generalizing sites rows session with
  | nil => rfl
  | cons stage stages ih =>
      cases sites with
      | nil => rfl
      | cons site sites => simp only [List.map_cons, push, JoinStage.probeRow_retuned, ih]

theorem processRow_retuned (n : Nat) (c : JoinChain) (row : Row) :
    (c.retuned n).processRow row = c.processRow row := by
  have hpush : (c.retuned n).pushAll [row] = c.pushAll [row] := by
    funext s
    simp only [pushAll, retuned, push_retuned]
  unfold processRow
  rw [hpush]
  rfl

theorem execute_retuned (n : Nat) (c : JoinChain) (input : List Pull) :
    (c.retuned n).execute input = c.execute input := by
  have hall : (c.retuned n).processAll input = c.processAll input := by
    induction input with
    | nil => rfl
    | cons p rest ih => simp only [processAll, processRow_retuned, ih]
  unfold execute
  rw [hall]

end

theorem checkWidths_retuned (n position width : Nat) (stages : List JoinStage) :
    checkWidths position width (stages.map (JoinStage.retuned n)) =
      checkWidths position width stages := by
  induction stages generalizing position width with
  | nil => rfl
  | cons stage stages ih =>
      simp only [List.map_cons, checkWidths, ih]
      rfl

end JoinChain

theorem JoinChain.create_retuned (n baseArity : Nat) (stages : List JoinStage) :
    create baseArity (stages.map (JoinStage.retuned n)) =
      (fun c => { c with stages := c.stages.map (JoinStage.retuned n) }) <$>
        create baseArity stages := by
  unfold create
  rw [checkWidths_retuned]
  cases checkWidths 0 baseArity stages <;> rfl

theorem JoinChain.joinedArity_retuned (n : Nat) (c : JoinChain) :
    (c.retuned n).joinedArity = c.joinedArity := by
  unfold joinedArity retuned
  rw [List.foldl_map]
  rfl

theorem JoinChain.withProjection_retuned (n : Nat) (c : JoinChain) (p : Projection) :
    (c.retuned n).withProjection p = retuned n <$> c.withProjection p := by
  unfold withProjection
  rw [joinedArity_retuned]
  cases p.validate c.joinedArity <;> rfl

theorem JoinSite.toStage_retuned (n : Nat) (site : JoinSite) (registry : Registry)
    (config : JoinConfig) :
    site.toStage registry { config with parallelism := n } =
      JoinStage.retuned n <$> site.toStage registry config := by
  simp only [toStage, map_bind, JoinStage.create_retuned]

/-- A plan turns into the same chain for any number of workers. -/
theorem Plan.toChain_retuned (n : Nat) (p : Plan) (registry : Registry) (config : JoinConfig) :
    p.toChain registry { config with parallelism := n } =
      JoinChain.retuned n <$> p.toChain registry config := by
  unfold toChain
  cases p.source? with
  | none => rfl
  | some source =>
      have hstages := mapM_eq_map (fun site => JoinSite.toStage_retuned n site registry config)
        p.joinSites
      simp only [hstages, map_bind, bind_map_left, JoinChain.create_retuned]
      apply bind_congr
      intro stages
      apply bind_congr
      intro c
      cases p.projection? with
      | none => rfl
      | some projection =>
          exact JoinChain.withProjection_retuned n (c.withParallelism config.parallelism) projection

theorem constant_memory (r : MemoryRelation) :
    (RightRelation.bounded r.source).Constant ∧ (RightRelation.rescan r.source).Constant :=
  ⟨⟨.ok r.rows, fun _ => .ok [], fun _ => Or.inl rfl, fun _ hsource => nomatch hsource⟩,
    ⟨.ok r.rows, fun _ => .ok [], fun _ => Or.inl rfl, fun _ hsource => nomatch hsource⟩⟩

section

variable [KeyHasher]

theorem constant_store (m : KeyedMap) : (RightRelation.partitioned m.source).Constant := by
  refine ⟨.ok m.rows, m.lookup, fun _ => Or.inl rfl, fun source hsource n key => Or.inl ?_⟩
  obtain rfl := RightRelation.partitioned.inj hsource
  rfl

/-- The relations of a job are held in memory and do not change. -/
theorem RelationSpec.constant {spec : RelationSpec} {relation : RightRelation}
    (h : spec.toRelation = .ok relation) : relation.Constant := by
  obtain ⟨rows, -, h⟩ := exists_of_bind_eq_ok h
  cases hkind : spec.kind with
  | bounded =>
      rw [hkind] at h
      obtain ⟨memory, -, h⟩ := exists_of_bind_eq_ok h
      obtain rfl := Except.ok.inj h
      exact (constant_memory memory).1
  | rescan =>
      rw [hkind] at h
      obtain ⟨memory, -, h⟩ := exists_of_bind_eq_ok h
      obtain rfl := Except.ok.inj h
      exact (constant_memory memory).2
  | partitioned =>
      rw [hkind] at h
      obtain ⟨empty, -, h⟩ := exists_of_bind_eq_ok h
      obtain ⟨_, -, h⟩ := exists_of_bind_eq_ok h
      obtain rfl := Except.ok.inj h
      exact constant_store _

omit [KeyHasher] in
theorem Registry.mem_register {registry : Registry} {relation other : RightRelation}
    (h : other ∈ (registry.register relation).relations) :
    other = relation ∨ other ∈ registry.relations := by
  have hreplace (relations : List RightRelation) :
      other ∈ replace relation relations → other = relation ∨ other ∈ relations := by
    induction relations with
    | nil => exact fun hmem => Or.inl (List.mem_singleton.mp hmem)
    | cons first rest ih =>
        intro hmem
        unfold replace at hmem
        split at hmem
        · exact (List.mem_cons.mp hmem).imp id (List.mem_cons_of_mem first)
        · rcases List.mem_cons.mp hmem with rfl | hlater
          · exact Or.inr List.mem_cons_self
          · exact (ih hlater).imp id (List.mem_cons_of_mem first)
  exact hreplace registry.relations h

theorem JobSpec.constant_registry {job : JobSpec} {registry : Registry}
    (h : job.registry = .ok registry) : ∀ relation ∈ registry.relations, relation.Constant := by
  have hfold (specs : List RelationSpec) (start : Registry)
      (hstart : ∀ relation ∈ start.relations, relation.Constant)
      (hrun : specs.foldlM (fun registry spec => do
        let relation ← spec.toRelation
        return registry.register relation) start = .ok registry) :
      ∀ relation ∈ registry.relations, relation.Constant := by
    induction specs generalizing start with
    | nil =>
        obtain rfl := Except.ok.inj hrun
        exact hstart
    | cons spec rest ih =>
        rw [List.foldlM_cons] at hrun
        obtain ⟨next, hnext, hrun⟩ := exists_of_bind_eq_ok hrun
        obtain ⟨made, hmade, hnext⟩ := exists_of_bind_eq_ok hnext
        obtain rfl := Except.ok.inj hnext
        refine ih _ (fun relation hmem => ?_) hrun
        rcases Registry.mem_register hmem with rfl | hbefore
        · exact RelationSpec.constant hmade
        · exact hstart relation hbefore
  exact hfold job.relations Registry.empty (fun _ hmem => nomatch hmem) h

omit [KeyHasher] in
/-- The stages of a chain are over relations from the registry. -/
theorem Plan.right_of_toChain {p : Plan} {registry : Registry} {config : JoinConfig}
    {c : JoinChain} (h : p.toChain registry config = .ok c) :
    ∀ stage ∈ c.stages, stage.right ∈ registry.relations := by
  obtain ⟨-, -, -, hstages, -, -⟩ := toChain_eq_ok h
  intro stage member
  obtain ⟨site, -, hsite⟩ := exists_of_mem_mapM hstages member
  obtain ⟨name, relation, -, hget, -, hcreate⟩ := JoinSite.toStage_eq_ok hsite
  obtain ⟨-, -, rfl⟩ := JoinStage.create_eq_ok_iff.mp hcreate
  exact List.mem_of_find?_eq_some hget

theorem JobSpec.sameRows_joinRows {c : JoinChain} (hconstant : c.Constant) (partitions : Nat)
    (rows : List Row) :
    SameRows (joinRows c partitions rows)
      (c.execute (rows.map Pull.ofRow) { sites := c.initialSites }).1 := by
  unfold joinRows
  simp only
  split
  next hseveral =>
    have hdealt := flatten_deal_perm (Nat.lt_trans Nat.zero_lt_one hseveral) rows
    exact JoinChain.sameRows_executePartitioned hconstant c.atRest_initial c.atRest_initial hdealt
  next => exact sameRows_refl _

/-- What a job gives with its plan made into a chain. -/
def JobSpec.output (job : JobSpec) (plan : Plan) (partitions : Nat) (chain : JoinChain) :
    Except JobError JobOutput := do
  let input ← Row.ofScalars job.source.rows
  let rows ← (joinRows chain partitions input).mapError .join
  return {
    columns := plan.metadata.columns.map (·.name)
    rows
    sink := plan.sink? }

theorem JobSpec.sameOutput_output (job : JobSpec) (plan : Plan) (workers partitions : Nat)
    {c : JoinChain} (hconstant : c.Constant) :
    SameOutput (job.output plan partitions (c.retuned workers)) (job.output plan 1 c) := by
  unfold output
  cases Row.ofScalars job.source.rows with
  | error e => exact .error e e
  | ok input =>
      have hretuned : (c.retuned workers).Constant := by
        intro stage member
        obtain ⟨original, horiginal, rfl⟩ := List.mem_map.mp member
        exact hconstant original horiginal
      have hsites : (c.retuned workers).initialSites = c.initialSites := List.map_map
      have hrows := sameRows_joinRows hretuned partitions input
      rw [JoinChain.execute_retuned, hsites] at hrows
      change SameRows _ (joinRows c 1 input) at hrows
      change SameOutput
        ((joinRows (c.retuned workers) partitions input).mapError JobError.join >>= _)
        ((joinRows c 1 input).mapError JobError.join >>= _)
      generalize joinRows (c.retuned workers) partitions input = given at hrows ⊢
      generalize joinRows c 1 input = serial at hrows ⊢
      cases hrows with
      | ok hperm => exact .ok rfl rfl hperm
      | error e f => exact .error _ _

/-- A job gives the same for every number of workers and of partitions as with its rows joined
in order. -/
theorem JobSpec.sameOutput_run (job : JobSpec) (config : JoinConfig) (queryId : QueryId)
    (workers partitions : Nat) :
    SameOutput (job.run { config with parallelism := workers } partitions queryId)
      (job.run config 1 queryId) := by
  unfold run
  cases job.plan queryId with
  | error e => exact .error e e
  | ok plan =>
      cases hregistry : job.registry with
      | error e => exact .error e e
      | ok registry =>
          change SameOutput
            ((plan.toChain registry { config with parallelism := workers }).mapError JobError.join
              >>= job.output plan partitions)
            ((plan.toChain registry config).mapError JobError.join >>= job.output plan 1)
          rw [Plan.toChain_retuned]
          cases hchain : plan.toChain registry config with
          | error e => exact .error _ _
          | ok c =>
              have hconstant : c.Constant := fun stage member =>
                constant_registry hregistry _ (Plan.right_of_toChain hchain stage member)
              exact job.sameOutput_output plan workers partitions hconstant

/-- Partitions and workers neither lose, repeat nor change rows. Over relations that do not
change and while the query is live, workers on any partitions of driving rows give what joining
the rows in order gives, in some order, or fail exactly if that fails, however their turns
interleave. So a job gives the same columns, sink and rows for every number of partitions and of
workers, or fails for all. -/
theorem partitioned_as_serial :
    (∀ (c : JoinChain) (partitions : List (List Row)) (s t : ChainState), c.Constant →
      s.session.Live → List.Forall₂ JoinStage.Reached c.stages s.sites →
      t.session.Live → List.Forall₂ JoinStage.Reached c.stages t.sites →
        let serial := (c.execute (partitions.flatten.map Pull.ofRow) t).1
        SameRows (c.executePartitioned partitions s).1 serial ∧
          ∀ workers u, (∀ w ∈ workers, w.Idle) →
            Relation.ReflTransGen c.Turn (JoinChain.newWorkers c.parallelism partitions, s)
              (workers, u) →
            SameRows (gather (workers.map JoinChain.Worker.result)) serial) ∧
      ∀ (job : JobSpec) (config : JoinConfig) (queryId : QueryId)
        (workers partitions workers' partitions' : Nat),
        SameOutput (job.run { config with parallelism := workers } partitions queryId)
          (job.run { config with parallelism := workers' } partitions' queryId) := by
  constructor
  · intro c partitions s t hconstant hlive hsites hlive' hsites'
    have hs := JoinChain.atRest_of_reached hconstant hlive hsites
    have ht := JoinChain.atRest_of_reached hconstant hlive' hsites'
    refine ⟨JoinChain.sameRows_executePartitioned hconstant hs ht (.refl _), ?_⟩
    intro workers u hidle hturns
    exact JoinChain.sameRows_of_turns hconstant hs ht hturns hidle
  · intro job config queryId workers partitions workers' partitions'
    have hfirst := job.sameOutput_run config queryId workers partitions
    have hsecond := job.sameOutput_run config queryId workers' partitions'
    exact hfirst.trans hsecond.symm

end

/-- Two workers on three partitions give the rows of the third before those of the second. So do
workers whose turns interleave: both find the slot of the right side empty, the second builds it,
and the first joins its rows with what the second has built. -/
theorem partitioned_in_other_order :
    let condition : Expr := .compare .lt (.column 0) (.column 1)
    let r : MemoryRelation := ⟨"r", 1, [[.int32 2], [.int32 3]], false⟩
    let stage : JoinStage :=
      ⟨⟨[], [], some condition, condition, 1, 1⟩, .bounded r.source, {}, .fullScan, .materialized,
        [], 0⟩
    let c : JoinChain := ⟨1, [stage], none, 2⟩
    let s : ChainState := { sites := c.initialSites }
    let first : Row := [.int32 1]
    let second : Row := [.int32 2]
    let serial := (c.execute ([first, second, first].map Pull.ofRow) s).1
    serial.toOption = some [[.int32 1, .int32 2], [.int32 1, .int32 3], [.int32 2, .int32 3],
      [.int32 1, .int32 2], [.int32 1, .int32 3]] ∧
    (c.executePartitioned [[first], [second], [first]] s).1.toOption =
      some [[.int32 1, .int32 2], [.int32 1, .int32 3], [.int32 1, .int32 2],
        [.int32 1, .int32 3], [.int32 2, .int32 3]] ∧
    SameRows (c.executePartitioned [[first], [second], [first]] s).1 serial ∧
    ∃ workers u, Relation.ReflTransGen c.Turn
        ([⟨[first, first], .ok [], none⟩, ⟨[second], .ok [], none⟩], s)
        ([⟨[first], .ok [], some ⟨0, [first], #[], true⟩⟩,
          ⟨[], .ok [], some ⟨0, [second], #[], true⟩⟩], s) ∧
      Relation.ReflTransGen c.Turn
        ([⟨[first], .ok [], some ⟨0, [first], #[], true⟩⟩,
          ⟨[], .ok [], some ⟨0, [second], #[], true⟩⟩], s) (workers, u) ∧
      SameRows (gather (workers.map JoinChain.Worker.result)) serial := by
  intro condition r stage c s first second serial
  have hconstant : c.Constant := by
    intro other member
    obtain rfl := List.mem_singleton.mp member
    exact (constant_memory r).1
  have hlive : s.session.Live := ⟨rfl, fun n h => nomatch h⟩
  have hsites : List.Forall₂ JoinStage.Reached c.stages s.sites := .cons .fresh .nil
  obtain ⟨hworkers, hturns⟩ := partitioned_as_serial.1 c [[first], [second], [first]] s s hconstant
    hlive hsites hlive hsites
  have hneeds (left : Row) : stage.NeedsSide left := ⟨rfl, fun h => nomatch h⟩
  -- Both enter the chain and see the empty slot.
  have hrace : Relation.ReflTransGen c.Turn
      ([⟨[first, first], .ok [], none⟩, ⟨[second], .ok [], none⟩], s)
      ([⟨[first], .ok [], some ⟨0, [first], #[], true⟩⟩,
        ⟨[], .ok [], some ⟨0, [second], #[], true⟩⟩], s) :=
    .head (.enter [] _ rfl rfl) <|
    .head (.enter [_] [] rfl rfl) <|
    .head (.fly [] _ (.look rfl rfl rfl rfl rfl (hneeds first) rfl)) <|
    .single (.fly [_] [] (.look rfl rfl rfl rfl rfl (hneeds second) rfl))
  -- The second builds the side; the first finds it and is done with its row before the second.
  let side : BuildSide := ⟨⟨1, #[.int32 2, .int32 3], 2⟩, none⟩
  let built := (stage.makeSide ⟨s.session, {}, #[]⟩).2
  let s₁ : ChainState := ⟨built.session, [{ built.site with build := ⟨some side⟩ }]⟩
  let p₂ := (stage.probeRow first ⟨s₁.session, { built.site with build := ⟨some side⟩ }, #[]⟩).2
  let s₂ : ChainState := ⟨p₂.session, [p₂.site]⟩
  let p₃ := (stage.probeRow second ⟨s₂.session, p₂.site, #[]⟩).2
  let s₃ : ChainState := ⟨p₃.session, [p₃.site]⟩
  have hbuilt : stage.makeSide ⟨s.session, {}, #[]⟩ = (.ok side, built) := rfl
  have hall : Relation.ReflTransGen c.Turn
      ([⟨[first], .ok [], some ⟨0, [first], #[], true⟩⟩,
        ⟨[], .ok [], some ⟨0, [second], #[], true⟩⟩], s)
      ([⟨[], bothRows (.ok p₂.emitted.toList) (c.processRow first s₃).1, none⟩,
        ⟨[], .ok p₃.emitted.toList, none⟩], (c.processRow first s₃).2) :=
    .head (.fly [_] [] (.build rfl rfl rfl rfl hbuilt)) <|
    .head (.fly [] [_] (t := s₁) (.found rfl rfl rfl)) <|
    .head (.fly [] [_] (t := s₂) (.join (t := p₂) rfl rfl rfl rfl)) <|
    .head (.fly [] [_] (t := s₂) (.pass rfl rfl)) <|
    .head (.finish [] [_] s₂ rfl) <|
    .head (.fly [_] [] (t := s₃) (.join (t := p₃) rfl rfl rfl rfl)) <|
    .head (.fly [_] [] (t := s₃) (.pass rfl rfl)) <|
    .head (.finish [_] [] s₃ rfl) <|
    .single (.row [] [_] first [] p₂.emitted.toList s₃)
  have hidle : ∀ w ∈ ([⟨[], bothRows (.ok p₂.emitted.toList) (c.processRow first s₃).1, none⟩,
      ⟨[], .ok p₃.emitted.toList, none⟩] : List JoinChain.Worker), w.Idle := by
    intro w member
    simp only [List.mem_cons, List.not_mem_nil, or_false] at member
    rcases member with rfl | rfl <;> exact ⟨rfl, Or.inl rfl⟩
  have hdealt : deal (workerCount 2 3) [[first], [second], [first]] =
      [[[first], [first]], [[second]]] := by decide +kernel
  have hnew := congrArg (List.map fun hand => JoinChain.Worker.mk hand.flatten (.ok []) none) hdealt
  change JoinChain.newWorkers c.parallelism [[first], [second], [first]] =
    [⟨[first, first], .ok [], none⟩, ⟨[second], .ok [], none⟩] at hnew
  rw [hnew] at hturns
  exact ⟨by decide +kernel, by decide +kernel, hworkers, _, _, hrace, hall,
    hturns _ _ hidle (hrace.trans hall)⟩

end JoinEngine
