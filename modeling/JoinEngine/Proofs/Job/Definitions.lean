import JoinEngine.Proofs.Exec.ChainMeaning
import JoinEngine.Proofs.Job.Partitions
import JoinEngine.Proofs.Plan.Launch

/-!
The definitions that the joins of a job are run against. Planning finds the first definition of
a name, while the registry keeps the last. Later checks see a definition's kind and arity only, so
the two are told apart no further: a job that runs joins its source rows, in nested loops, with
the rows that the last definition of each name declares. Where a name is defined once, that is the
definition the join was planned against.
-/

namespace JoinEngine

/-- Rows that are all taken in leave the store as writing them one by one does. -/
theorem KeyedMap.attempts_of_insertAll [KeyHasher] {m final : KeyedMap} {rows : List Row}
    (h : m.insertAll rows = (.ok (), final)) : (attempts KeyedMap.insert m rows).2 = final := by
  induction rows generalizing m with
  | nil => exact (Prod.mk.inj h).2
  | cons row rest ih =>
      unfold insertAll at h
      cases hinsert : m.insert row with
      | error e =>
          rw [hinsert] at h
          cases (Prod.mk.inj h).1
      | ok next =>
          rw [hinsert] at h
          simp only [attempts, hinsert]
          exact ih h

theorem KeyedMap.flat_of_empty {name : String} {arity count : Nat} {keyColumns : List Nat}
    {m : KeyedMap} (h : empty name arity keyColumns count = .ok m) (rows : List Row) :
    m.flat rows = ⟨name, arity, keyColumns, rows⟩ := by
  unfold empty at h
  split at h
  · cases h
  split at h
  · cases h
  obtain rfl := Except.ok.inj h
  rfl

namespace RelationSpec

/-- The rows that a definition declares. A store keeps the last of the rows with one key. -/
def declared (spec : RelationSpec) : Except JobError (List Row) := do
  let rows ← Row.ofScalars spec.rows
  match spec.kind with
  | .partitioned =>
    let start : FlatStore := ⟨spec.name, spec.arity, spec.keyColumns, []⟩
    return (attempts FlatStore.insert start rows).2.rows
  | _ => return rows

/-- A definition is made into a relation in memory of its name, kind and arity, which holds the
declared rows in some order. -/
structure MadeInto [KeyHasher] (spec : RelationSpec) (relation : RightRelation) : Prop where
  name : relation.name = spec.name
  kind : relation.kind = spec.kind
  arity : relation.arity = spec.arity
  rows : ∃ stored declared, relation.InMemory stored ∧ spec.declared = .ok declared ∧
    stored.Perm declared

variable [KeyHasher]

omit [KeyHasher] in
theorem declared_of_listed {spec : RelationSpec} {rows : List Row}
    (hkind : spec.kind ≠ .partitioned) (hrows : Row.ofScalars spec.rows = .ok rows) :
    spec.declared = .ok rows := by
  unfold declared
  rw [hrows]
  cases hlisted : spec.kind with
  | partitioned => exact absurd hlisted hkind
  | bounded | rescan => rfl

/-- A store that has taken in all rows of a definition. -/
theorem madeInto_of_insertAll {spec : RelationSpec} (hkind : spec.kind = .partitioned)
    {rows : List Row} (hrows : Row.ofScalars spec.rows = .ok rows) {start final : KeyedMap}
    (hstart : KeyedMap.empty spec.name spec.arity spec.keyColumns spec.partitions = .ok start)
    (hall : start.insertAll rows = (.ok (), final)) :
    spec.MadeInto (.partitioned final.source) := by
  obtain ⟨-, listed, hflat, hstores, hsame⟩ := (KeyedMap.stores_empty hstart).attempts rows
  have hmemory := RightRelation.InMemory.partitioned rows hstart
  rw [KeyedMap.attempts_of_insertAll hall] at hstores hsame hmemory
  rw [KeyedMap.flat_of_empty hstart, KeyedMap.flat_of_empty hstart] at hflat
  have hfields := (congrFun hsame []).trans (KeyedMap.flat_of_empty hstart [])
  have hdeclared : spec.declared = .ok listed := by
    unfold declared
    rw [hrows, hkind]
    exact congrArg (fun store : FlatStore => Except.ok store.rows) hflat
  exact ⟨congrArg FlatStore.name hfields, hkind.symm, congrArg FlatStore.arity hfields,
    final.rows, listed, hmemory, hdeclared, hstores.perm⟩

theorem madeInto_of_toRelation {spec : RelationSpec} {relation : RightRelation}
    (h : spec.toRelation = .ok relation) : spec.MadeInto relation := by
  obtain ⟨rows, hrows, h⟩ := exists_of_bind_eq_ok h
  cases hkind : spec.kind with
  | bounded | rescan =>
      have hdeclared : spec.declared = .ok rows := declared_of_listed (by simp [hkind]) hrows
      rw [hkind] at h
      obtain ⟨memory, hmemory, h⟩ := exists_of_bind_eq_ok h
      obtain rfl := Except.ok.inj h
      have hofRows := ok_of_mapError hmemory
      obtain ⟨rfl, -⟩ := MemoryRelation.eq_of_ofRows hofRows
      refine ⟨rfl, hkind.symm, rfl, rows, rows, ?_, hdeclared, .refl _⟩
      constructor
      exact hofRows
  | partitioned =>
      rw [hkind] at h
      obtain ⟨start, hstart, h⟩ := exists_of_bind_eq_ok h
      cases hall : start.insertAll rows with
      | mk result final =>
          rw [hall] at h
          obtain ⟨_, hresult, h⟩ := exists_of_bind_eq_ok h
          obtain rfl := Except.ok.inj h
          rw [ok_of_mapError hresult] at hall
          exact madeInto_of_insertAll hkind hrows (ok_of_mapError hstart) hall

end RelationSpec

theorem Registry.get?_register (registry : Registry) (relation : RightRelation) (name : String) :
    (registry.register relation).get? name =
      if relation.name = name then some relation else registry.get? name := by
  have hreplace (relations : List RightRelation) :
      (replace relation relations).find? (·.name == name) =
        if relation.name = name then some relation else relations.find? (·.name == name) := by
    induction relations with
    | nil =>
        unfold replace
        split <;> simp_all
    | cons other rest ih =>
        unfold replace
        split <;> split <;> simp_all [List.find?_cons]
  exact hreplace registry.relations

/-- The sites that a chain starts with have not run. -/
theorem JoinChain.reached_initial [KeyHasher] (c : JoinChain) :
    List.Forall₂ JoinStage.Reached c.stages c.initialSites :=
  List.forall₂_map_right_iff.mpr (List.forall₂_same.mpr fun _ _ => .fresh)

namespace JobSpec

/-- The definition that comes last among those of a name. -/
def lastRelation (job : JobSpec) (name : String) : Except JobError RelationSpec :=
  match (job.relations.filter (·.name == name)).getLast? with
  | some relation => .ok relation
  | none => .error (.job (.unknownRelation name))

/-- A name is registered for what its last definition is made into. -/
theorem toRelation_of_get? [KeyHasher] {job : JobSpec} {registry : Registry}
    (h : job.registry = .ok registry) {name : String} {relation : RightRelation}
    (hget : registry.get? name = some relation) :
    ∃ spec, job.lastRelation name = .ok spec ∧ spec.toRelation = .ok relation := by
  have hlast : ∃ spec, (job.relations.filter (·.name == name)).getLast? = some spec ∧
      spec.toRelation = .ok relation := by
    unfold JobSpec.registry at h
    generalize job.relations = specs at h ⊢
    -- on the definitions from the back: the one registered last answers to its name alone
    induction specs using List.reverseRecOn generalizing registry with
    | nil =>
        obtain rfl := Except.ok.inj h
        cases hget
    | append_singleton specs spec ih =>
        rw [List.foldlM_append] at h
        obtain ⟨before, hbefore, h⟩ := exists_of_bind_eq_ok h
        obtain ⟨next, hnext, h⟩ := exists_of_bind_eq_ok h
        obtain rfl := Except.ok.inj h
        obtain ⟨made, hmade, hnext⟩ := exists_of_bind_eq_ok hnext
        obtain rfl := Except.ok.inj hnext
        rw [Registry.get?_register, (RelationSpec.madeInto_of_toRelation hmade).name] at hget
        rw [List.filter_append]
        by_cases hname : spec.name = name
        · rw [if_pos hname] at hget
          obtain rfl := Option.some.inj hget
          exact ⟨spec, by simp [hname], hmade⟩
        · rw [if_neg hname] at hget
          simpa [hname] using ih hget hbefore
  obtain ⟨spec, hspec, hmade⟩ := hlast
  refine ⟨spec, ?_, hmade⟩
  unfold lastRelation
  rw [hspec]

end JobSpec

/-- The condition of a join behind rows of a width: its own, or that the pairs of columns it
names are equal. -/
def JoinSpec.conditionBehind (join : JoinSpec) (width : Nat) : Expr :=
  join.condition.getD (JoinDescriptor.usingCondition width join.usingColumns)

/-- The conditions of joins in order, each with the rows declared by the definition that is found
for its name. -/
def loopSites (find : String → Except JobError RelationSpec) (width : Nat) :
    List JoinSpec → Except JobError (List LoopSite)
  | [] => .ok []
  | join :: rest => do
    let spec ← find join.relation
    let rows ← spec.declared
    let others ← loopSites find (width + spec.arity) rest
    return (join.conditionBehind width, rows) :: others

theorem loopSites_cons {find : String → Except JobError RelationSpec} {width : Nat}
    {join : JoinSpec} {rest : List JoinSpec} {spec : RelationSpec} {rows : List Row}
    {others : List LoopSite} (hfind : find join.relation = .ok spec)
    (hrows : spec.declared = .ok rows)
    (hothers : loopSites find (width + spec.arity) rest = .ok others) :
    loopSites find width (join :: rest) = .ok ((join.conditionBehind width, rows) :: others) := by
  unfold loopSites
  rw [hfind]
  change (spec.declared >>= _) = _
  rw [hrows]
  change (loopSites find (width + spec.arity) rest >>= _) = _
  rw [hothers]
  rfl

theorem loopSites_congr {find other : String → Except JobError RelationSpec}
    {joins : List JoinSpec} (h : ∀ join ∈ joins, find join.relation = other join.relation)
    (width : Nat) : loopSites find width joins = loopSites other width joins := by
  induction joins generalizing width with
  | nil => rfl
  | cons join rest ih =>
      obtain ⟨hfirst, hrest⟩ := List.forall_mem_cons.mp h
      simp only [loopSites, hfirst, ih hrest]

namespace JobSpec

/-- The rows that a source row comes to: in some order, one row made of each row of the nested
loops that the filter lets through. -/
def Outputs (job : JobSpec) (sites : List LoopSite) (left : Row) (out : List Row) : Prop :=
  let projection := job.projection.getD {}
  ∃ joined : List Row, joined.Perm ((multiJoin sites left).filter projection.lets) ∧
    List.Forall₂ projection.Makes joined out

/-- The rows are what the source rows come to, in order, when each join means the definition that
is found for its name. -/
def RunsOn (job : JobSpec) (find : String → Except JobError RelationSpec) (out : List Row) :
    Prop :=
  ∃ input sites blocks, Row.ofScalars job.source.rows = .ok input ∧
    loopSites find job.source.arity job.joins = .ok sites ∧
    out = blocks.flatten ∧ List.Forall₂ (job.Outputs sites) input blocks

/-- A join of the job is planned behind rows of a width, against a definition. -/
structure Plans (job : JobSpec) (width : Nat) (join : JoinSpec) (spec : RelationSpec)
    (site : JoinSite) : Prop where
  found : job.relation join.relation = .ok spec
  name : site.tableName = .ok join.relation
  kind : site.kind = spec.kind
  split : JoinDescriptor.classify (join.conditionBehind width) width spec.arity =
    .ok site.descriptor

theorem name_of_relation {job : JobSpec} {name : String} {spec : RelationSpec}
    (h : job.relation name = .ok spec) : spec.name = name := by
  unfold relation at h
  split at h
  next found hfound =>
    obtain rfl := Except.ok.inj h
    simpa using List.find?_some hfound
  next => cases h

theorem site_eq_ok {job : JobSpec} {width next : Nat} {join : JoinSpec} {site : JoinSite}
    (h : job.site width join = .ok (site, next)) :
    ∃ spec, job.Plans width join spec site ∧ next = width + spec.arity := by
  obtain ⟨spec, hfound, h⟩ := exists_of_bind_eq_ok h
  have hname := name_of_relation hfound
  refine ⟨spec, ?_⟩
  split at h
  next condition hcondition husing =>
    obtain ⟨made, hmade, h⟩ := exists_of_bind_eq_ok h
    obtain ⟨rfl, rfl⟩ := Prod.mk.inj (Except.ok.inj h)
    obtain ⟨descriptor, hsplit, hmade⟩ := exists_of_bind_eq_ok (ok_of_mapError hmade)
    obtain rfl := Except.ok.inj hmade
    refine ⟨⟨hfound, congrArg Except.ok hname, rfl, ?_⟩, rfl⟩
    unfold JoinSpec.conditionBehind
    rw [hcondition]
    exact hsplit
  next pair pairs hcondition husing =>
    obtain ⟨descriptor, hmade, h⟩ := exists_of_bind_eq_ok h
    obtain ⟨rfl, rfl⟩ := Prod.mk.inj (Except.ok.inj h)
    refine ⟨⟨hfound, congrArg Except.ok hname, rfl, ?_⟩, rfl⟩
    have hsplit := ok_of_mapError hmade
    unfold JoinDescriptor.ofUsing at hsplit
    rw [if_neg (by simp)] at hsplit
    unfold JoinSpec.conditionBehind
    rw [hcondition, husing]
    split at hsplit
    · cases hsplit
    · exact hsplit
  next => cases h

def outline (job : JobSpec) (sites : List JoinSite) : Outline where
  source := ⟨job.source.name, job.source.arity, job.source.unbounded⟩
  joins := sites
  projection := job.projection
  sink := job.sink

/-- A job's plan is assembled from its outline. If its rows are returned, the metadata names as
many columns as there are behind the joins and the projection, or the columns that are listed. -/
theorem assembled_of_plan {job : JobSpec} {queryId : QueryId} {plan : Plan}
    (h : job.plan queryId = .ok plan) :
    ∃ sites last metadata, job.sites job.source.arity job.joins = .ok (sites, last) ∧
      Plan.assemble (job.outline sites).stages job.sink.isSome queryId metadata = .ok plan ∧
      (job.sink = none → RowMetadata.ofColumns ((job.columnNames (match job.projection with
        | some p => p.outputArity last
        | none => last)).map fun name => ⟨name, .unknown⟩) = .ok metadata) := by
  obtain ⟨⟨sites, last⟩, hsites, h⟩ := exists_of_bind_eq_ok h
  refine ⟨sites, last, ?_⟩
  unfold outline
  cases hsink : job.sink with
  | some target =>
      rw [hsink] at h
      exact ⟨RowMetadata.empty, hsites, ok_of_mapError h, fun hnone => nomatch hnone⟩
  | none =>
      rw [hsink] at h
      obtain ⟨metadata, hmetadata, h⟩ := exists_of_bind_eq_ok h
      exact ⟨metadata, hsites, ok_of_mapError h, fun _ => ok_of_mapError hmetadata⟩

/-- The parts of a job's plan: its source's width, the sites of its joins and its projection. -/
theorem parts_of_plan {job : JobSpec} {queryId : QueryId} {plan : Plan}
    (h : job.plan queryId = .ok plan) :
    ∃ source last, plan.source? = some source ∧ source.arity = job.source.arity ∧
      job.sites job.source.arity job.joins = .ok (plan.joinSites, last) ∧
      plan.projection? = job.projection := by
  obtain ⟨sites, last, metadata, hsites, hplan, -⟩ := assembled_of_plan h
  obtain ⟨o, hstages, -, hcarries, -⟩ := Plan.carries_of_assemble hplan
  obtain rfl := Outline.eq_of_stages hstages
  refine ⟨_, last, hcarries.source, rfl, ?_, hcarries.projection⟩
  rw [hcarries.joins]
  exact hsites

/-- The last definition of a name has the kind and the arity of the first. -/
def Consistent (job : JobSpec) (name : String) : Prop :=
  ∃ planned used, job.relation name = .ok planned ∧ job.lastRelation name = .ok used ∧
    used.kind = planned.kind ∧ used.arity = planned.arity

section

variable [KeyHasher] {job : JobSpec} {registry : Registry} {config : JoinConfig}

/-- A planned join becomes a stage over the rows of its name's last definition. That the stage
was created tells the kind and the arity of this definition, and nothing else of it. -/
theorem Plans.joins (hregistry : job.registry = .ok registry) {width : Nat} {join : JoinSpec}
    {planned : RelationSpec} {site : JoinSite} (h : job.Plans width join planned site)
    {stage : JoinStage} (hstage : site.toStage registry config = .ok stage) :
    ∃ used stored declared, job.lastRelation join.relation = .ok used ∧
      used.kind = planned.kind ∧ used.arity = planned.arity ∧ used.declared = .ok declared ∧
      stored.Perm declared ∧ stage.Joins (join.conditionBehind width, stored) := by
  obtain ⟨name, relation, hname, hget, hkind, hcreate⟩ := JoinSite.toStage_eq_ok hstage
  obtain rfl := Except.ok.inj (h.name.symm.trans hname)
  obtain ⟨used, hlast, hmade⟩ := toRelation_of_get? hregistry hget
  obtain ⟨-, hused, husedArity, stored, declared, hmemory, hdeclared, hperm⟩ :=
    RelationSpec.madeInto_of_toRelation hmade
  obtain ⟨-, harity, -⟩ := JoinStage.create_eq_ok_iff.mp hcreate
  have hsplit : site.descriptor.rightArity = planned.arity := by
    rw [JoinDescriptor.eq_of_classify h.split]
  refine ⟨used, stored, declared, hlast, ?_, ?_, hdeclared, hperm, ?_⟩
  · rw [← hused, hkind, h.kind]
  · rw [← husedArity, harity, hsplit]
  · exact ⟨_, _, _, _, _, _, h.split, hmemory, hcreate⟩

/-- The stages of a job's chain join, site by site, the rows of the last definitions. -/
theorem loopSites_of_stages (hregistry : job.registry = .ok registry) {joins : List JoinSpec}
    {width last : Nat} {sites : List JoinSite} (hsites : job.sites width joins = .ok (sites, last))
    {stages : List JoinStage}
    (hstages : List.Forall₂ (fun site stage => site.toStage registry config = .ok stage) sites
      stages) :
    ∃ stored declared, List.Forall₂ JoinStage.Joins stages stored ∧
      loopSites job.lastRelation width joins = .ok declared ∧ AlikeSites stored declared ∧
      ∀ join ∈ joins, job.Consistent join.relation := by
  induction joins generalizing width sites stages with
  | nil =>
      obtain ⟨rfl, rfl⟩ := Prod.mk.inj (Except.ok.inj hsites)
      cases hstages
      exact ⟨[], [], .nil, rfl, .nil, by simp⟩
  | cons join rest ih =>
      obtain ⟨⟨site, next⟩, hsite, hsites⟩ := exists_of_bind_eq_ok hsites
      obtain ⟨⟨others, behind⟩, hothers, hsites⟩ := exists_of_bind_eq_ok hsites
      obtain ⟨rfl, rfl⟩ := Prod.mk.inj (Except.ok.inj hsites)
      obtain ⟨planned, hplans, rfl⟩ := site_eq_ok hsite
      cases hstages with
      | cons hstage hlater =>
          obtain ⟨used, rows, declaredRows, hlast, hkind, harity, hdeclared, hperm, hjoins⟩ :=
            hplans.joins hregistry hstage
          obtain ⟨stored, declared, hall, hloops, halike, hconsistent⟩ := ih hothers hlater
          refine ⟨(join.conditionBehind width, rows) :: stored,
            (join.conditionBehind width, declaredRows) :: declared, .cons hjoins hall, ?_,
            .cons ⟨rfl, hperm⟩ halike, List.forall_mem_cons.mpr ⟨?_, hconsistent⟩⟩
          · rw [← harity] at hloops
            exact loopSites_cons hlast hdeclared hloops
          · exact ⟨planned, used, hplans.found, hlast, hkind, harity⟩

omit [KeyHasher] in
/-- What one source row comes to in a chain, it comes to in the loops of sites that are alike. -/
theorem outputs_of_chain {c : JoinChain} (hprojection : c.projection = job.projection)
    {sites others : List LoopSite} (halike : AlikeSites sites others) {left : Row}
    {block : List Row} (h : c.Outputs sites left block) : job.Outputs others left block := by
  obtain ⟨joined, hperm, hmakes⟩ := h
  unfold JoinChain.rowProjection at hperm hmakes
  rw [hprojection] at hperm hmakes
  have hloops := (multiJoin_perm_selection sites left).symm.trans (multiJoin_perm halike left)
  exact ⟨joined, hperm.trans (hloops.filter _), hmakes⟩

/-- What a job gives comes from its plan, and from the chain that the plan is launched as. -/
theorem run_eq_ok {partitions : Nat} {queryId : QueryId} {output : JobOutput}
    (h : job.run config partitions queryId = .ok output) :
    ∃ plan registry chain input, job.plan queryId = .ok plan ∧ job.registry = .ok registry ∧
      plan.toChain registry config = .ok chain ∧ Row.ofScalars job.source.rows = .ok input ∧
      joinRows chain partitions input = .ok output.rows ∧
      output.columns = plan.metadata.columns.map (·.name) := by
  obtain ⟨plan, hplan, h⟩ := exists_of_bind_eq_ok h
  obtain ⟨registry, hregistry, h⟩ := exists_of_bind_eq_ok h
  obtain ⟨chain, hchain, h⟩ := exists_of_bind_eq_ok h
  obtain ⟨input, hinput, h⟩ := exists_of_bind_eq_ok h
  obtain ⟨rows, hrows, h⟩ := exists_of_bind_eq_ok h
  obtain rfl := Except.ok.inj h
  exact ⟨plan, registry, chain, input, hplan, hregistry, ok_of_mapError hchain, hinput,
    ok_of_mapError hrows, rfl⟩

/-- A job that runs joins its source rows with the rows of the last definitions. -/
theorem runsOn_of_run {queryId : QueryId} {output : JobOutput}
    (h : job.run config 1 queryId = .ok output) :
    job.RunsOn job.lastRelation output.rows ∧ ∀ join ∈ job.joins, job.Consistent join.relation := by
  obtain ⟨plan, registry, chain, input, hplan, hregistry, hchain, hinput, hrows, -⟩ :=
    run_eq_ok h
  obtain ⟨source, last, hsource, harity, hsites, hprojection⟩ := parts_of_plan hplan
  obtain ⟨source', hsource', hbase, hstages, hwidths, hprojected⟩ := Plan.toChain_eq_ok hchain
  obtain rfl := Option.some.inj (hsource.symm.trans hsource')
  obtain ⟨stored, declared, hjoins, hloops, halike, hconsistent⟩ :=
    loopSites_of_stages hregistry hsites (Projection.forall₂_of_mapM hstages)
  let start : ChainState := { sites := chain.initialSites }
  have hready : chain.Ready stored start := by
    refine ⟨⟨rfl, fun n h => nomatch h⟩, ?_⟩
    rw [hbase]
    exact JoinChain.sitesReady_of_widths hjoins chain.reached_initial hwidths
  have hexecute : (chain.execute (input.map Pull.ofRow) start).1 = .ok output.rows := hrows
  cases hrun : chain.execute (input.map Pull.ofRow) start with
  | mk result final =>
      rw [hrun] at hexecute
      obtain rfl : result = .ok output.rows := hexecute
      obtain ⟨⟨blocks, hblocks, hcome⟩, -⟩ :=
        JoinChain.processAll_eq_ok input hready (JoinChain.processAll_of_execute hrun)
      refine ⟨⟨input, declared, blocks, hinput, hloops, hblocks, ?_⟩, hconsistent⟩
      exact hcome.imp fun _ _ hblock =>
        outputs_of_chain (hprojected.trans hprojection) halike hblock

omit [KeyHasher] in
/-- A name that is defined once means the same to planning and to the registry. -/
theorem lastRelation_of_unique {name : String}
    (h : (job.relations.filter (·.name == name)).length ≤ 1) :
    job.lastRelation name = job.relation name := by
  unfold lastRelation relation
  rw [← List.head?_filter]
  generalize job.relations.filter (·.name == name) = named at h
  match named with
  | [] => rfl
  | [_] => rfl
  | _ :: _ :: _ => simp at h

/-- The joins of a job run against the definitions that come last of their names. If the job runs,
its rows are, source row by source row, those of the nested loops over the rows that these
definitions declare, filtered and projected. They agree with the definitions that the joins were
planned against in kind and arity; and they are these, so the job runs on what it was planned
against, if every name that is joined is defined only once. -/
theorem run_joins_last_definitions {queryId : QueryId} {output : JobOutput}
    (h : job.run config 1 queryId = .ok output) :
    job.RunsOn job.lastRelation output.rows ∧
      (∀ join ∈ job.joins, job.Consistent join.relation) ∧
      ((∀ join ∈ job.joins, (job.relations.filter (·.name == join.relation)).length ≤ 1) →
        job.RunsOn job.relation output.rows) := by
  obtain ⟨hruns, hconsistent⟩ := runsOn_of_run h
  refine ⟨hruns, hconsistent, fun hunique => ?_⟩
  obtain ⟨input, sites, blocks, hinput, hsites, hblocks, hcome⟩ := hruns
  refine ⟨input, sites, blocks, hinput, ?_, hblocks, hcome⟩
  rw [← hsites]
  exact loopSites_congr (fun join member => (lastRelation_of_unique (hunique join member)).symm) _

end

/-- Of a relation defined twice the second definition gives the rows, and of rows with one key the
last. Without the first definition the job gives the same, and runs on what it was planned
against. -/
theorem run_joins_redefined :
    let int (n : Int) : Json := .number (.int n)
    let first : RelationSpec := ⟨"m", .bounded, 2, [], 1, [[int 1, int 10]]⟩
    let second : RelationSpec := ⟨"m", .bounded, 2, [], 1, [[int 1, int 20], [int 1, int 21]]⟩
    let keyed : RelationSpec :=
      ⟨"k", .partitioned, 2, [0], 3, [[int 1, int 5], [int 2, int 7], [int 1, int 6]]⟩
    let job (relations : List RelationSpec) : JobSpec := {
      source := ⟨"s", 1, [[int 1], [int 2]], false⟩
      relations
      joins := [⟨"m", none, [(0, 0)]⟩, ⟨"k", some (.columnsEqual 0 3), []⟩]
      projection := some ⟨none, [.column 2, .column 4]⟩
      columns := []
      sink := none }
    let rows : List Row := [[.int32 21, .int32 6], [.int32 20, .int32 6]]
    let redefined := job [first, keyed, second]
    let unique := job [keyed, second]
    (∃ output, redefined.run {} 1 ⟨1, 1⟩ = .ok output ∧ output.rows = rows ∧
      redefined.RunsOn redefined.lastRelation output.rows) ∧
      ∃ output, unique.run {} 1 ⟨1, 1⟩ = .ok output ∧ output.rows = rows ∧
        unique.RunsOn unique.relation output.rows := by
  intro int first second keyed job rows redefined unique
  constructor
  · obtain ⟨output, hrun, hrows⟩ : ∃ output, redefined.run {} 1 ⟨1, 1⟩ = .ok output ∧
        output.rows = rows := exists_of_toOption_map (by decide +kernel)
    exact ⟨output, hrun, hrows, (run_joins_last_definitions hrun).1⟩
  · obtain ⟨output, hrun, hrows⟩ : ∃ output, unique.run {} 1 ⟨1, 1⟩ = .ok output ∧
        output.rows = rows := exists_of_toOption_map (by decide +kernel)
    exact ⟨output, hrun, hrows, (run_joins_last_definitions hrun).2.2 (by decide)⟩

/-- A join planned against the first of two definitions gets the row of the second. -/
theorem run_misses_planned_definition :
    let int (n : Int) : Json := .number (.int n)
    let definition (n : Int) : RelationSpec := ⟨"m", .bounded, 2, [], 1, [[int 1, int n]]⟩
    let job : JobSpec := {
      source := ⟨"l", 1, [[int 1]], false⟩
      relations := [definition 10, definition 20]
      joins := [⟨"m", none, [(0, 0)]⟩]
      projection := none
      columns := []
      sink := none }
    ∃ output, job.run {} 1 ⟨1, 1⟩ = .ok output ∧
      output.rows = [[.int32 1, .int32 1, .int32 20]] ∧
      ¬ job.RunsOn job.relation output.rows := by
  intro int definition job
  obtain ⟨output, hrun, hout⟩ : ∃ output, job.run {} 1 ⟨1, 1⟩ = .ok output ∧
      output.rows = [[.int32 1, .int32 1, .int32 20]] :=
    exists_of_toOption_map (by decide +kernel)
  refine ⟨output, hrun, hout, ?_⟩
  rintro ⟨input, sites, blocks, hinput, hsites, hblocks, hcome⟩
  obtain rfl : [[.int32 1]] = input := Except.ok.inj hinput
  obtain rfl : [(_, [[.int32 1, .int32 10]])] = sites := Except.ok.inj hsites
  cases hcome with
  | cons hblock hnone =>
      cases hnone
      obtain ⟨joined, hperm, hmakes⟩ := hblock
      -- the loop over the planned rows gives one row, which is not the one that came out
      obtain rfl : joined = [[.int32 1, .int32 1, .int32 10]] := List.perm_singleton.mp hperm
      cases hmakes with
      | cons hmade hrest =>
          cases hrest
          obtain rfl := hmade.1 rfl
          rw [hblocks] at hout
          exact absurd hout (by decide)

end JobSpec

end JoinEngine
