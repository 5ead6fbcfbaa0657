import JoinEngine.Plan.Launch
import JoinEngine.Proofs.Exec.Cache
import JoinEngine.Proofs.Exec.ShapedRuns
import JoinEngine.Proofs.Plan.Assembled

/-!
From an assembled plan to a chain that runs. The assembler, the splitting of conditions and the
chain each check widths of their own; over relations with the columns that the joins were made
for they agree, site by site, so a plan that was assembled is launched, and the chain runs in
shape.
-/

namespace JoinEngine

variable {registry : Registry} (config : JoinConfig)

theorem Registry.resolve_eq_ok_iff {name : String} {kind : RelationKind}
    {relation : RightRelation} :
    registry.resolve name kind = .ok relation ↔
      registry.get? name = some relation ∧ relation.kind = kind := by
  unfold resolve
  cases hget : registry.get? name with
  | none => simp
  | some found =>
      simp only [Option.some.injEq]
      constructor
      · intro h
        split at h
        next hkind =>
          obtain rfl := Except.ok.inj h
          exact ⟨rfl, hkind⟩
        next => cases h
      · rintro ⟨rfl, hkind⟩
        exact if_pos hkind

/-- The relation registered for the join's table ends, and has the columns the join was made
for. -/
def Registry.Serves (registry : Registry) (site : JoinSite) : Prop :=
  ∀ t, site.right = .table t → ∃ relation, registry.resolve t.name site.kind = .ok relation ∧
    relation.isUnbounded = false ∧ relation.arity = site.descriptor.rightArity

def JoinSite.Classified (site : JoinSite) : Prop :=
  ∃ condition leftArity rightArity,
    JoinDescriptor.classify condition leftArity rightArity = .ok site.descriptor

/-- A stage is over the relation that its table's name is resolved to. -/
theorem JoinSite.toStage_eq_ok {config : JoinConfig} {site : JoinSite} {stage : JoinStage}
    (h : site.toStage registry config = .ok stage) :
    ∃ name relation, site.tableName = .ok name ∧
      registry.get? name = some relation ∧ relation.kind = site.kind ∧
      JoinStage.create site.descriptor relation config (registry.position name) = .ok stage := by
  obtain ⟨name, hname, h⟩ := exists_of_bind_eq_ok h
  obtain ⟨relation, hresolve, hcreate⟩ := exists_of_bind_eq_ok h
  obtain ⟨hget, hkind⟩ := Registry.resolve_eq_ok_iff.mp hresolve
  exact ⟨name, relation, hname, hget, hkind, hcreate⟩

/-- A join that fits behind rows of a width becomes a stage made for its rows. -/
theorem JoinSite.exists_toStage {site : JoinSite} {width : Nat} (hfits : site.FitsBehind width)
    (hclassified : site.Classified) (hserves : registry.Serves site) :
    ∃ stage, site.toStage registry config = .ok stage ∧ stage.Shaped ∧
      stage.descriptor.leftArity = width ∧ stage.descriptor.rightArity = site.right.arity := by
  obtain ⟨t, hright, -, hleft, harity⟩ := hfits
  obtain ⟨condition, leftArity, rightArity, hclassify⟩ := hclassified
  obtain ⟨relation, hresolve, hends, hcolumns⟩ := hserves t hright
  have hname : site.tableName = .ok t.name := by
    unfold JoinSite.tableName
    rw [hright]
  obtain ⟨stage, hcreate⟩ : ∃ stage, JoinStage.create site.descriptor relation config
      (registry.position t.name) = .ok stage :=
    ⟨_, JoinStage.create_eq_ok_iff.mpr ⟨hends, hcolumns, rfl⟩⟩
  refine ⟨stage, ?_, ?_⟩
  · unfold JoinSite.toStage
    rw [hname]
    change (registry.resolve t.name site.kind >>= _) = _
    rw [hresolve]
    exact hcreate
  · obtain ⟨-, -, rfl⟩ := JoinStage.create_eq_ok_iff.mp hcreate
    rw [hright]
    exact ⟨⟨hcolumns, JoinDescriptor.within_of_classify hclassify⟩, hleft, harity⟩

/-- Joins that fit one behind the other become stages made for their rows. -/
theorem JoinChain.exists_stages {joins : List JoinSite} {width : Nat}
    (hfits : ∀ before site after, joins = before ++ site :: after →
      site.FitsBehind (width + addedWidth before))
    (hclassified : ∀ site ∈ joins, site.Classified)
    (hserves : ∀ site ∈ joins, registry.Serves site) :
    ∃ stages, joins.mapM (fun site => site.toStage registry config) = .ok stages ∧
      ShapedFrom width stages ∧ widthBehind width stages = width + addedWidth joins := by
  induction joins generalizing width with
  | nil => exact ⟨[], rfl, .nil width, rfl⟩
  | cons site rest ih =>
      obtain ⟨hfirst, hothers⟩ := List.forall_mem_cons.mp hclassified
      obtain ⟨hserved, hrest⟩ := List.forall_mem_cons.mp hserves
      obtain ⟨stage, hstage, hshaped, hleft, hright⟩ :=
        JoinSite.exists_toStage config (hfits [] site rest rfl) hfirst hserved
      -- behind the first join the rows are wider by its right columns
      have hbehind : ∀ before other after, rest = before ++ other :: after →
          other.FitsBehind (width + stage.descriptor.rightArity + addedWidth before) := by
        rintro before other after rfl
        rw [hright, Nat.add_assoc]
        exact hfits (site :: before) other after rfl
      obtain ⟨stages, hstages, hall, hwidth⟩ := ih hbehind hothers hrest
      refine ⟨stage :: stages, ?_, .cons hshaped hleft hall, ?_⟩
      · rw [List.mapM_cons, hstage, hstages]
        rfl
      · have hadded : addedWidth (site :: rest) = site.right.arity + addedWidth rest := rfl
        rw [hadded, ← Nat.add_assoc, ← hright]
        exact hwidth

namespace Plan

/-- A chain has the stages of the plan's joins and the plan's projection, and its widths fit. -/
theorem toChain_eq_ok {config : JoinConfig} {plan : Plan} {chain : JoinChain}
    (h : plan.toChain registry config = .ok chain) :
    ∃ source, plan.source? = some source ∧ chain.baseArity = source.arity ∧
      plan.joinSites.mapM (fun site => site.toStage registry config) = .ok chain.stages ∧
      JoinChain.checkWidths 0 source.arity chain.stages = .ok () ∧
      chain.projection = plan.projection? := by
  unfold toChain at h
  cases hsource : plan.source? with
  | none =>
      rw [hsource] at h
      cases h
  | some source =>
      rw [hsource] at h
      obtain ⟨stages, hstages, h⟩ := exists_of_bind_eq_ok h
      obtain ⟨joined, hjoined, h⟩ := exists_of_bind_eq_ok h
      obtain ⟨u, hwidths, hjoined⟩ := exists_of_bind_eq_ok hjoined
      obtain rfl := Except.ok.inj hjoined
      cases hprojection : plan.projection? with
      | none =>
          rw [hprojection] at h
          obtain rfl := Except.ok.inj h
          exact ⟨source, rfl, rfl, hstages, hwidths, rfl⟩
      | some projection =>
          rw [hprojection] at h
          obtain ⟨_, -, h⟩ := exists_of_bind_eq_ok h
          obtain rfl := Except.ok.inj h
          exact ⟨source, rfl, rfl, hstages, hwidths, rfl⟩

theorem toChain_of_stages {plan : Plan} {source : TableRef} {stages : List JoinStage}
    (hsource : plan.source? = some source)
    (hstages : plan.joinSites.mapM (fun site => site.toStage registry config) = .ok stages)
    (hshaped : JoinChain.ShapedFrom source.arity stages)
    (hprojection : ∀ p, plan.projection? = some p →
      p.Within (JoinChain.widthBehind source.arity stages)) :
    plan.toChain registry config = .ok {
      baseArity := source.arity
      stages
      projection := plan.projection?
      parallelism := max config.parallelism 1 } := by
  have hcreate : JoinChain.create source.arity stages =
      .ok { baseArity := source.arity, stages } := by
    unfold JoinChain.create
    rw [hshaped.checkWidths 0]
    rfl
  unfold toChain
  simp only [hsource, hstages]
  change (JoinChain.create source.arity stages >>= _) = _
  rw [hcreate]
  cases hp : plan.projection? with
  | none => rfl
  | some p =>
      let joined : JoinChain := ⟨source.arity, stages, none, max config.parallelism 1⟩
      have hvalid : p.validate joined.joinedArity = .ok () :=
        Projection.validate_eq_ok_iff.mpr (Projection.within_iff_columns.mp (hprojection p hp))
      change joined.withProjection p = _
      unfold JoinChain.withProjection
      rw [hvalid]
      rfl

/-- What the assembler accepts can be run in shape. Over relations with the columns that its joins
were made for, an assembled plan whose conditions were split is launched; the chain gives as many
columns as the metadata describes, if it describes any, and no run of it hands a stage a row of
another width or evaluates an expression on a row without its columns. -/
theorem toChain_runs_in_shape [KeyHasher] {stages : List PlanStage} {insert : Bool}
    {queryId : QueryId} {metadata : RowMetadata} {plan : Plan}
    (hplan : assemble stages insert queryId metadata = .ok plan)
    (hclassified : ∀ site ∈ plan.joinSites, site.Classified)
    (hserves : ∀ site ∈ plan.joinSites, registry.Serves site) :
    ∃ source chain, plan.source? = some source ∧ plan.toChain registry config = .ok chain ∧
      chain.baseArity = source.arity ∧
      (plan.metadata.columns ≠ [] → chain.outputArity = plan.metadata.count) ∧
      chain.RunsInShape := by
  obtain ⟨o, -, hwell, hcarries, -, -, hmetadata⟩ := carries_of_assemble hplan
  have hjoins := hcarries.joins
  rw [hjoins] at hclassified hserves
  obtain ⟨chainStages, hstages, hshaped, hwidth⟩ :=
    JoinChain.exists_stages config hwell.joins hclassified hserves
  rw [← hjoins] at hstages
  have hwithin : ∀ p, plan.projection? = some p →
      p.Within (JoinChain.widthBehind o.source.arity chainStages) := by
    intro p hp
    rw [hcarries.projection] at hp
    rw [hwidth]
    exact Projection.within_iff_columns.mpr (hwell.columns p hp)
  have hchain := toChain_of_stages config hcarries.source hstages hshaped hwithin
  refine ⟨o.source, _, hcarries.source, hchain, rfl, fun hdescribed => ?_, ?_⟩
  · rw [hmetadata] at hdescribed ⊢
    rw [hwell.metadata.resolve_left hdescribed]
    have hjoined : JoinChain.widthBehind o.source.arity chainStages = o.joinedWidth := hwidth
    unfold JoinChain.outputArity Outline.width
    rw [hcarries.projection, ← hjoined]
    rfl
  · exact JoinChain.Shaped.runs ⟨hshaped, hwithin⟩

/-- A plan of two joins, by key and by comparison, with a projection that drops a column. -/
theorem toChain_of_joins_runs :
    let equal : Expr := .columnsEqual 0 1
    let below : Expr := .compare .lt (.column 1) (.column 2)
    let first : JoinSite :=
      ⟨.table ⟨"a", 1, false⟩, .bounded, ⟨[0], [0], none, equal, 1, 1⟩⟩
    let second : JoinSite :=
      ⟨.table ⟨"b", 1, false⟩, .rescan, ⟨[], [], some below, below, 2, 1⟩⟩
    let stages : List PlanStage := [.source ⟨"s", 1, true⟩, .join first, .join second,
      .project ⟨none, [.column 2, .column 0]⟩]
    let metadata : RowMetadata := ⟨[⟨"x", .int⟩, ⟨"y", .int⟩]⟩
    let a : MemoryRelation := ⟨"a", 1, [[.int32 1], [.int32 2]], false⟩
    let b : MemoryRelation := ⟨"b", 1, [[.int32 3], [.null], [.int32 2]], false⟩
    let registry : Registry := ⟨[.bounded a.source, .rescan b.source]⟩
    ∃ plan chain, assemble stages false ⟨1, 1⟩ metadata = .ok plan ∧
      plan.toChain registry {} = .ok chain ∧ chain.outputArity = 2 ∧ chain.RunsInShape ∧
      (chain.execute [Pull.ofRow [.int32 2]] { sites := chain.initialSites }).1.toOption =
        some [[.int32 3, .int32 2]] := by
  intro equal below first second stages metadata a b registry
  obtain ⟨plan, hplan, hsites, hdescribed, hrun⟩ :
      ∃ plan, assemble stages false ⟨1, 1⟩ metadata = .ok plan ∧
        plan.joinSites = [first, second] ∧ plan.metadata = metadata ∧
        ((plan.toChain registry {}).toOption.bind fun chain =>
          (chain.execute [Pull.ofRow [.int32 2]] { sites := chain.initialSites }).1.toOption) =
            some [[.int32 3, .int32 2]] :=
    ⟨_, rfl, rfl, rfl, by decide +kernel⟩
  have hclassified : ∀ site ∈ plan.joinSites, site.Classified := by
    rw [hsites, List.forall_mem_cons, List.forall_mem_singleton]
    exact ⟨⟨equal, 1, 1, rfl⟩, ⟨below, 2, 1, rfl⟩⟩
  have hserves : ∀ site ∈ plan.joinSites, registry.Serves site := by
    rw [hsites, List.forall_mem_cons, List.forall_mem_singleton]
    constructor
    · rintro _ ⟨⟩
      exact ⟨.bounded a.source, rfl, rfl, rfl⟩
    · rintro _ ⟨⟩
      exact ⟨.rescan b.source, rfl, rfl, rfl⟩
  obtain ⟨-, chain, -, hchain, -, hwidth, hruns⟩ :=
    toChain_runs_in_shape {} hplan hclassified hserves
  rw [hdescribed] at hwidth
  rw [hchain] at hrun
  exact ⟨plan, chain, hplan, hchain, hwidth (List.cons_ne_nil _ _), hruns, hrun⟩

end Plan

end JoinEngine
