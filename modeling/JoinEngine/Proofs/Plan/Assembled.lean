import JoinEngine.Proofs.Expr.Columns
import JoinEngine.Proofs.Plan.Outline
import JoinEngine.Proofs.Relation.Steady

/-!
What the assembler accepts. `Adds` says in full what one stage does to an assembly, and `Builds`
that an assembly holds an outline. A stage that is added extends the outline by itself, so what
is assembled is an outline that fits; and every well-formed outline can be assembled, part by
part.
-/

namespace JoinEngine

namespace Assembly

def joined (a : Assembly) (site : JoinSite) (t : TableRef) : Assembly :=
  { a with
    graph := a.graph.withJoin a.tail site s!"right({t.name})" s!"join({t.name})"
    tail := a.graph.nextId + 1
    width := a.width + t.arity }

def projecting (a : Assembly) (p : Projection) : Assembly :=
  { a.extend "project" (.project p) with
    width := p.outputArity a.width
    projected := true }

def sinking (a : Assembly) (target : String) : Assembly :=
  { a.extend s!"sink({target})" (.sink target) with sunk := true }

/-- What adding a stage asks for, and what it comes to. -/
inductive Adds (a : Assembly) : PlanStage → Assembly → Prop where
  | join {site : JoinSite} {t : TableRef} : a.sunk = false → a.projected = false →
      site.right = .table t → t.unbounded = false → site.descriptor.leftArity = a.width →
      site.descriptor.rightArity = t.arity → Adds a (.join site) (a.joined site t)
  | project {p : Projection} : a.sunk = false → a.projected = false →
      (∀ column ∈ p.columns, column < a.width) → Adds a (.project p) (a.projecting p)
  | sink {target : String} : a.sunk = false → Adds a (.sink target) (a.sinking target)

theorem addJoin_eq_ok_iff {a b : Assembly} {site : JoinSite} :
    a.addJoin site = .ok b ↔ ∃ t, site.right = .table t ∧ t.unbounded = false ∧
      site.descriptor.leftArity = a.width ∧ site.descriptor.rightArity = t.arity ∧
      b = a.joined site t := by
  unfold addJoin
  cases hright : site.right with
  | subquery d => simp
  | table t =>
      have hkind : site.rightKind = .right t.name site.kind false := by
        unfold JoinSite.rightKind
        rw [hright]
      -- the vertices and edges are the same, added one by one or at once
      let withRight : Assembly :=
        { a with graph := a.graph.addVertex s!"right({t.name})" (.right t.name site.kind false) }
      let last := withRight.extend s!"join({t.name})" (.join site)
      have hjoined : ({ last with
          graph := last.graph.addEdge a.graph.nextId last.tail .probe
          width := a.width + t.arity } : Assembly) = a.joined site t := by
        simp [last, withRight, joined, extend, PlanGraph.withJoin, PlanGraph.grown,
          PlanGraph.addVertex, PlanGraph.addEdge, PlanGraph.nextId, hkind]
      simp only [check_eq_ok_iff, Bool.not_eq_true, Decidable.not_not, Except.ok.injEq]
      constructor
      · rintro ⟨hends, hleft, hcolumns, rfl⟩
        exact ⟨t, rfl, hends, hleft, hcolumns, hjoined⟩
      · rintro ⟨other, hother, hends, hleft, hcolumns, rfl⟩
        obtain rfl := RelationRef.table.inj hother
        exact ⟨hends, hleft, hcolumns, hjoined⟩

theorem adds_iff {a b : Assembly} {stage : PlanStage} : a.add stage = .ok b ↔ a.Adds stage b := by
  unfold add
  rw [check_eq_ok_iff, Bool.not_eq_true]
  constructor
  · rintro ⟨hsunk, h⟩
    cases stage with
    | source table => cases h
    | join site =>
        obtain ⟨hprojected, h⟩ := check_eq_ok_iff.mp h
        obtain ⟨t, hright, hends, hleft, hcolumns, rfl⟩ := addJoin_eq_ok_iff.mp h
        exact .join hsunk (Bool.eq_false_iff.mpr hprojected) hright hends hleft hcolumns
    | project p =>
        obtain ⟨hprojected, h⟩ := check_eq_ok_iff.mp h
        obtain ⟨_, hvalid, h⟩ := exists_of_bind_eq_ok h
        obtain rfl := Except.ok.inj h
        exact .project hsunk (Bool.eq_false_iff.mpr hprojected)
          (Projection.validate_eq_ok_iff.mp hvalid)
    | sink target =>
        obtain rfl := Except.ok.inj h
        exact .sink hsunk
  · intro h
    cases h with
    | join hsunk hprojected hright hends hleft hcolumns =>
        have hadded := addJoin_eq_ok_iff.mpr ⟨_, hright, hends, hleft, hcolumns, rfl⟩
        exact ⟨hsunk, check_eq_ok_iff.mpr ⟨Bool.eq_false_iff.mp hprojected, hadded⟩⟩
    | project hsunk hprojected hcolumns =>
        have hvalid := Projection.validate_eq_ok_iff.mpr hcolumns
        refine ⟨hsunk, check_eq_ok_iff.mpr ⟨Bool.eq_false_iff.mp hprojected, ?_⟩⟩
        rw [hvalid]
        rfl
    | sink hsunk => exact ⟨hsunk, rfl⟩

/-- The assembly holds the outline: widths, flags and graph are those of its parts. -/
structure Builds (a : Assembly) (o : Outline) : Prop where
  fits : o.Fits
  width : a.width = o.width
  projected : a.projected = o.projection.isSome
  sunk : a.sunk = o.sink.isSome
  kinds : a.graph.kinds = o.kinds
  sound : a.graph.Sound
  tail : a.tail < a.graph.vertices.length

theorem builds_ofSource (table : TableRef) : (ofSource table).Builds { source := table } where
  fits := ⟨fun before site after hsplit => by simp at hsplit, fun _ hp => nomatch hp⟩
  width := rfl
  projected := rfl
  sunk := rfl
  kinds := rfl
  sound := PlanGraph.sound_source _ table
  tail := Nat.zero_lt_one

section

variable {a : Assembly} {source : TableRef} {joins : List JoinSite}

theorem Builds.join {site : JoinSite} {t : TableRef} (h : a.Builds { source, joins })
    (hright : site.right = .table t) (hsite : site.FitsBehind a.width) :
    (a.joined site t).Builds { source, joins := joins ++ [site] } := by
  have hwidth : a.width = source.arity + addedWidth joins := h.width
  rw [hwidth] at hsite
  refine ⟨h.fits.snoc hsite, ?_, h.projected, h.sunk, ?_, h.sound.withJoin h.tail site _ _, ?_⟩
  · simp [joined, Outline.width, Outline.joinedWidth, addedWidth, hwidth, hright,
      RelationRef.arity, Nat.add_assoc]
  · have hkinds : a.graph.kinds = .source source :: Outline.joinKinds joins := by
      simpa [Outline.kinds] using h.kinds
    have hgrown : (a.joined site t).graph.kinds =
        a.graph.kinds ++ [site.rightKind, .join site] := by
      simp [joined, PlanGraph.withJoin, PlanGraph.grown, PlanGraph.kinds]
    simp [hgrown, hkinds, Outline.kinds, Outline.joinKinds]
  · simp [joined, PlanGraph.withJoin, PlanGraph.grown, PlanGraph.nextId]

theorem Builds.project {p : Projection} (h : a.Builds { source, joins })
    (hp : ∀ column ∈ p.columns, column < a.width) :
    (a.projecting p).Builds { source, joins, projection := some p } := by
  have hwidth : a.width = source.arity + addedWidth joins := h.width
  rw [hwidth] at hp
  refine ⟨⟨h.fits.joins, ?_⟩, ?_, rfl, h.sunk, ?_,
    h.sound.addStage h.tail _ (Or.inl ⟨p, rfl⟩), ?_⟩
  · intro q hq
    obtain rfl := Option.some.inj hq
    exact hp
  · simp [projecting, Outline.width, Outline.joinedWidth, hwidth]
  · have hgrown : (a.projecting p).graph.kinds = a.graph.kinds ++ [.project p] := by
      simp [projecting, extend, PlanGraph.kinds, PlanGraph.addVertex, PlanGraph.addEdge]
    simp [hgrown, h.kinds, Outline.kinds]
  · simp [projecting, extend, PlanGraph.addVertex, PlanGraph.addEdge, PlanGraph.nextId]

theorem Builds.sink {projection : Option Projection} (h : a.Builds { source, joins, projection })
    (target : String) :
    (a.sinking target).Builds { source, joins, projection, sink := some target } := by
  refine ⟨⟨h.fits.joins, h.fits.columns⟩, h.width, h.projected, rfl, ?_,
    h.sound.addStage h.tail _ (Or.inr ⟨target, rfl⟩), ?_⟩
  · have hgrown : (a.sinking target).graph.kinds = a.graph.kinds ++ [.sink target] := by
      simp [sinking, extend, PlanGraph.kinds, PlanGraph.addVertex, PlanGraph.addEdge]
    simp [hgrown, h.kinds, Outline.kinds]
  · simp [sinking, extend, PlanGraph.addVertex, PlanGraph.addEdge, PlanGraph.nextId]

end

theorem Builds.projection_eq_none {a : Assembly} {o : Outline} (h : a.Builds o)
    (hplain : a.projected = false) : o.projection = none := by
  have hprojected := h.projected
  rw [hplain] at hprojected
  exact Option.not_isSome_iff_eq_none.mp (Bool.eq_false_iff.mp hprojected.symm)

theorem Builds.sink_eq_none {a : Assembly} {o : Outline} (h : a.Builds o)
    (hopen : a.sunk = false) : o.sink = none := by
  have hsunk := h.sunk
  rw [hopen] at hsunk
  exact Option.not_isSome_iff_eq_none.mp (Bool.eq_false_iff.mp hsunk.symm)

/-- A stage that is added comes last in the outline. -/
theorem Builds.adds {a b : Assembly} {o : Outline} {stage : PlanStage} (h : a.Builds o)
    (hadds : a.Adds stage b) :
    ∃ next : Outline, next.stages = o.stages ++ [stage] ∧ b.Builds next := by
  obtain ⟨source, joins, projection, sink⟩ := o
  cases hadds with
  | @join site t hopen hplain hright hends hleft hcolumns =>
      obtain rfl : projection = none := h.projection_eq_none hplain
      obtain rfl : sink = none := h.sink_eq_none hopen
      refine ⟨_, ?_, h.join hright ⟨t, hright, hends, hleft, hcolumns⟩⟩
      simp [Outline.stages]
  | @project p hopen hplain hcolumns =>
      obtain rfl : projection = none := h.projection_eq_none hplain
      obtain rfl : sink = none := h.sink_eq_none hopen
      refine ⟨_, ?_, h.project hcolumns⟩
      simp [Outline.stages]
  | @sink target hopen =>
      obtain rfl : sink = none := h.sink_eq_none hopen
      refine ⟨_, ?_, h.sink target⟩
      simp [Outline.stages]

theorem foldlM_singleton {a b : Assembly} {stage : PlanStage} (h : a.Adds stage b) :
    [stage].foldlM add a = .ok b := by
  rw [List.foldlM_cons, adds_iff.mpr h]
  rfl

/-- Stages that are added in order come last in the outline, in that order. -/
theorem builds_of_foldlM {a b : Assembly} {o : Outline} {stages : List PlanStage} (h : a.Builds o)
    (hrun : stages.foldlM add a = .ok b) :
    ∃ last : Outline, last.stages = o.stages ++ stages ∧ b.Builds last := by
  induction stages generalizing a o with
  | nil =>
      obtain rfl := Except.ok.inj hrun
      exact ⟨o, (List.append_nil _).symm, h⟩
  | cons stage rest ih =>
      rw [List.foldlM_cons] at hrun
      obtain ⟨next, hadd, hrun⟩ := exists_of_bind_eq_ok hrun
      obtain ⟨o', hnext, hbuilds⟩ := h.adds (adds_iff.mp hadd)
      obtain ⟨last, hlast, hdone⟩ := ih hbuilds hrun
      refine ⟨last, ?_, hdone⟩
      rw [hlast, hnext, List.append_assoc, List.singleton_append]

/-- Joins that fit behind those there are can all be added. -/
theorem Builds.addJoins {a : Assembly} {source : TableRef} {joins more : List JoinSite}
    (h : a.Builds { source, joins })
    (hfits : Outline.Fits { source, joins := joins ++ more }) :
    ∃ b, (more.map PlanStage.join).foldlM add a = .ok b ∧
      b.Builds { source, joins := joins ++ more } := by
  induction more generalizing a joins with
  | nil =>
      rw [List.append_nil]
      exact ⟨a, rfl, h⟩
  | cons site rest ih =>
      have hsite := hfits.joins joins site rest rfl
      have hwidth : a.width = source.arity + addedWidth joins := h.width
      rw [← hwidth] at hsite
      obtain ⟨t, hright, hends, hleft, hcolumns⟩ := hsite
      have hnext := h.join hright ⟨t, hright, hends, hleft, hcolumns⟩
      rw [List.append_cons] at hfits
      obtain ⟨b, hrun, hb⟩ := ih hnext hfits
      rw [← List.append_cons] at hb
      refine ⟨b, ?_, hb⟩
      rw [List.map_cons, List.foldlM_cons,
        adds_iff.mpr (.join h.sunk h.projected hright hends hleft hcolumns)]
      exact hrun

/-- Every outline that fits can be assembled up to its end. -/
theorem exists_assembly {o : Outline} (h : o.Fits) :
    ∃ b, o.stages.tail.foldlM add (ofSource o.source) = .ok b ∧ b.Builds o := by
  obtain ⟨source, joins, projection, sink⟩ := o
  have hplain : Outline.Fits { source, joins } := ⟨h.joins, fun _ hp => nomatch hp⟩
  obtain ⟨a, hjoins, ha⟩ := (builds_ofSource source).addJoins hplain
  rw [List.nil_append] at ha
  have hprojection : ∃ b, (projection.map PlanStage.project).toList.foldlM add a = .ok b ∧
      b.Builds { source, joins, projection } := by
    cases projection with
    | none => exact ⟨a, rfl, ha⟩
    | some p =>
        have hwidth : a.width = source.arity + addedWidth joins := ha.width
        have hcolumns : ∀ column ∈ p.columns, column < a.width := by
          rw [hwidth]
          exact h.columns p rfl
        exact ⟨_, foldlM_singleton (.project ha.sunk ha.projected hcolumns), ha.project hcolumns⟩
  obtain ⟨b, hprojected, hb⟩ := hprojection
  have hsink : ∃ d, (sink.map PlanStage.sink).toList.foldlM add b = .ok d ∧
      d.Builds { source, joins, projection, sink } := by
    cases sink with
    | none => exact ⟨b, rfl, hb⟩
    | some target =>
        exact ⟨_, foldlM_singleton (.sink hb.sunk), hb.sink target⟩
  obtain ⟨d, hsunk, hd⟩ := hsink
  refine ⟨d, ?_, hd⟩
  change (joins.map PlanStage.join ++ (projection.map PlanStage.project).toList ++
    (sink.map PlanStage.sink).toList).foldlM add (ofSource source) = .ok d
  rw [List.foldlM_append, List.foldlM_append, hjoins]
  exact (congrArg (· >>= _) hprojected).trans hsunk

/-- A finished assembly has a sink as wanted, and gives rows as the metadata describes them. -/
theorem finish_eq_ok_iff {a : Assembly} {insert : Bool} {queryId : QueryId}
    {metadata : RowMetadata} {plan : Plan} :
    a.finish insert queryId metadata = .ok plan ↔
      a.sunk = insert ∧ (metadata.columns = [] ∨ metadata.count = a.width) ∧
        plan = {
          graph := a.graph
          streaming := a.graph.leaves.any Vertex.isUnbounded
          insert
          queryId
          metadata } := by
  unfold finish
  rw [check_eq_ok_iff, check_eq_ok_iff, check_eq_ok_iff, Except.ok.injEq, eq_comm (b := plan)]
  have hdescribed : ¬ (!metadata.columns.isEmpty && metadata.count != a.width) = true ↔
      metadata.columns = [] ∨ metadata.count = a.width := by
    simp [Decidable.or_iff_not_imp_left]
  rw [hdescribed]
  cases a.sunk <;> cases insert <;> simp

end Assembly

/-- The plan gives back the parts of the outline. Its edges lead forward to vertices there are, a
join is led to by one stream and by the right relation it probes, and no edge leads to the source
and the right relations, in order, alone. -/
structure Plan.Carries (plan : Plan) (o : Outline) : Prop where
  source : plan.source? = some o.source
  joins : plan.joinSites = o.joins
  projection : plan.projection? = o.projection
  sink : plan.sink? = o.sink
  ids : ∀ (i : Nat) v, plan.graph.vertices[i]? = some v → v.id = i
  forward : ∀ e ∈ plan.graph.edges,
    e.source < e.target ∧ e.target < plan.graph.vertices.length
  fed : ∀ v ∈ plan.graph.vertices, ∀ site, v.kind = .join site → ∃ stage right,
    plan.graph.inbound v.id = [⟨stage, v.id, .stream⟩, ⟨right, v.id, .probe⟩] ∧
      (plan.graph.vertex? right).map Vertex.kind = some site.rightKind
  inputs : plan.graph.leaves.map Vertex.kind =
    .source o.source :: o.joins.map JoinSite.rightKind
  streaming : plan.streaming = o.source.unbounded

namespace Plan

/-- What the kinds of the vertices tell, the plan gives back. -/
theorem carries_of_kinds {plan : Plan} {o : Outline} (hkinds : plan.graph.kinds = o.kinds)
    (hsound : plan.graph.Sound)
    (hstreaming : plan.streaming = plan.graph.leaves.any Vertex.isUnbounded) :
    plan.Carries o := by
  have hinputs : plan.graph.leaves.map Vertex.kind =
      .source o.source :: o.joins.map JoinSite.rightKind := by
    rw [hsound.leaves_kinds, hkinds, o.inputs_kinds]
  refine ⟨?_, ?_, ?_, ?_, hsound.ids, hsound.forward, ?_, hinputs, ?_⟩
  · have hsource : plan.source? = plan.graph.kinds.findSome? VertexKind.source? := by
      unfold source? PlanGraph.kinds
      rw [List.findSome?_map]
      rfl
    rw [hsource, hkinds]
    rfl
  · have hjoins : plan.joinSites = plan.graph.kinds.filterMap VertexKind.join? := by
      unfold joinSites PlanGraph.kinds
      rw [List.filterMap_map]
      rfl
    rw [hjoins, hkinds, o.joins_kinds]
  · have hprojection : plan.projection? = plan.graph.kinds.findSome? VertexKind.project? := by
      unfold projection? PlanGraph.kinds
      rw [List.findSome?_map]
      rfl
    rw [hprojection, hkinds, o.projection_kinds]
  · have hsink : plan.sink? = plan.graph.kinds.findSome? VertexKind.sink? := by
      unfold sink? PlanGraph.kinds
      rw [List.findSome?_map]
      rfl
    rw [hsink, hkinds, o.sink_kinds]
  · intro v member site hkind
    have hfeeds := hsound.fed v member
    unfold PlanGraph.Feeds at hfeeds
    rw [hkind] at hfeeds
    exact hfeeds
  · have hright : ∀ kind ∈ o.joins.map JoinSite.rightKind, ¬ kind.isEndless = true := by
      intro kind member
      obtain ⟨site, -, rfl⟩ := List.mem_map.mp member
      obtain ⟨name, hkind⟩ := site.exists_rightKind
      rw [hkind]
      exact Bool.false_ne_true
    have hinput : plan.graph.leaves.any Vertex.isUnbounded =
        (plan.graph.leaves.map Vertex.kind).any VertexKind.isEndless := by
      rw [List.any_map]
      rfl
    rw [hstreaming, hinput, hinputs, List.any_cons, List.any_eq_false.mpr hright, Bool.or_false]
    rfl

/-- An assembled plan carries a well-formed outline of its stages. -/
theorem carries_of_assemble {stages : List PlanStage} {insert : Bool} {queryId : QueryId}
    {metadata : RowMetadata} {plan : Plan}
    (h : assemble stages insert queryId metadata = .ok plan) :
    ∃ o : Outline, o.stages = stages ∧ o.WellFormed insert metadata ∧ plan.Carries o ∧
      plan.insert = insert ∧ plan.queryId = queryId ∧ plan.metadata = metadata := by
  unfold assemble at h
  split at h
  next table rest =>
    obtain ⟨a, hrun, hfinish⟩ := exists_of_bind_eq_ok h
    obtain ⟨o, hstages, hbuilds⟩ :=
      Assembly.builds_of_foldlM (Assembly.builds_ofSource table) hrun
    obtain ⟨hsink, hmetadata, rfl⟩ := Assembly.finish_eq_ok_iff.mp hfinish
    rw [hbuilds.sunk] at hsink
    rw [hbuilds.width] at hmetadata
    exact ⟨o, hstages, ⟨hbuilds.fits, hsink, hmetadata⟩,
      carries_of_kinds hbuilds.kinds hbuilds.sound rfl, rfl, rfl, rfl⟩
  next => cases h

/-- The stages of a well-formed outline are assembled. -/
theorem exists_plan {o : Outline} {insert : Bool} {metadata : RowMetadata}
    (h : o.WellFormed insert metadata) (queryId : QueryId) :
    ∃ plan, assemble o.stages insert queryId metadata = .ok plan := by
  obtain ⟨a, hrun, hbuilds⟩ := Assembly.exists_assembly h.toFits
  have hsink := h.sink
  have hmetadata := h.metadata
  rw [← hbuilds.sunk] at hsink
  rw [← hbuilds.width] at hmetadata
  have hassemble : assemble o.stages insert queryId metadata =
      (o.stages.tail.foldlM Assembly.add (Assembly.ofSource o.source) >>= fun a =>
        a.finish insert queryId metadata) := rfl
  rw [hassemble, hrun]
  exact ⟨_, Assembly.finish_eq_ok_iff.mpr ⟨hsink, hmetadata, rfl⟩⟩

/-- The assembler accepts the stages of well-formed outlines and nothing else, and the plan has
all of its outline. -/
theorem assemble_accepts_wellFormed (stages : List PlanStage) (insert : Bool) (queryId : QueryId)
    (metadata : RowMetadata) :
    ((∃ plan, assemble stages insert queryId metadata = .ok plan) ↔
      ∃ o : Outline, o.stages = stages ∧ o.WellFormed insert metadata) ∧
      ∀ plan, assemble stages insert queryId metadata = .ok plan →
        ∃ o : Outline, o.stages = stages ∧ plan.Carries o ∧ plan.insert = insert ∧
          plan.queryId = queryId ∧ plan.metadata = metadata := by
  refine ⟨⟨?_, ?_⟩, ?_⟩
  · rintro ⟨plan, h⟩
    obtain ⟨o, hstages, hwell, -⟩ := carries_of_assemble h
    exact ⟨o, hstages, hwell⟩
  · rintro ⟨o, rfl, hwell⟩
    exact exists_plan hwell queryId
  · intro plan h
    obtain ⟨o, hstages, -, hcarries⟩ := carries_of_assemble h
    exact ⟨o, hstages, hcarries⟩

/-- A plan with every kind of stage, over an input without end. -/
theorem assemble_insert_of_joins :
    let site (width : Nat) : JoinSite := ⟨.table ⟨"r", 1, false⟩, .bounded,
      ⟨[0], [0], none, .columnsEqual 0 width, width, 1⟩⟩
    let projection : Projection := ⟨none, [.column 2, .column 0]⟩
    let stages : List PlanStage := [.source ⟨"s", 1, true⟩, .join (site 1), .join (site 2),
      .project projection, .sink "out"]
    ∃ plan o, assemble stages true ⟨1, 1⟩ RowMetadata.empty = .ok plan ∧ o.stages = stages ∧
      plan.Carries o ∧ plan.joinSites.length = 2 ∧ plan.graph.vertices.length = 7 ∧
      plan.streaming = true := by
  intro site projection stages
  obtain ⟨plan, hplan, hsites, hvertices, hstreaming⟩ :
      ∃ plan, assemble stages true ⟨1, 1⟩ RowMetadata.empty = .ok plan ∧
        plan.joinSites.length = 2 ∧ plan.graph.vertices.length = 7 ∧ plan.streaming = true :=
    ⟨_, rfl, rfl, rfl, rfl⟩
  obtain ⟨o, hstages, hcarries, -⟩ :=
    (assemble_accepts_wellFormed stages true ⟨1, 1⟩ RowMetadata.empty).2 plan hplan
  exact ⟨plan, o, hplan, hstages, hcarries, hsites, hvertices, hstreaming⟩

end Plan

end JoinEngine
