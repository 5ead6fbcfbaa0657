import JoinEngine.Proofs.Codec.Value
import JoinEngine.Proofs.Job.Definitions
import JoinEngine.Proofs.Json.Members
import JoinEngine.Proofs.RowMetadata
import JoinEngine.Report.Format

/-!
The header of a job's output. The columns are named when the job is planned, the rows get their
width from the chain that runs; the widths that planning passes on are those of the chain, so a
row has a value for every column. As no two columns share a name, the JSON report has every cell.
-/

namespace JoinEngine

/-- A registry that a join became a stage over serves the join. -/
theorem Registry.serves_of_toStage {registry : Registry} {config : JoinConfig} {site : JoinSite}
    {stage : JoinStage} (h : site.toStage registry config = .ok stage) : registry.Serves site := by
  intro t ht
  obtain ⟨name, relation, hname, hget, hkind, hcreate⟩ := JoinSite.toStage_eq_ok h
  obtain ⟨hends, harity, -⟩ := JoinStage.create_eq_ok_iff.mp hcreate
  unfold JoinSite.tableName at hname
  rw [ht] at hname
  obtain rfl := Except.ok.inj hname
  exact ⟨relation, Registry.resolve_eq_ok_iff.mpr ⟨hget, hkind⟩, hends, harity⟩

/-- The chain that a plan is launched as was made for its rows, and gives rows of the width of the
plan's outline. -/
theorem Plan.shaped_of_toChain {plan : Plan} {o : Outline} {insert : Bool} {metadata : RowMetadata}
    (hwell : o.WellFormed insert metadata) (hcarries : plan.Carries o)
    (hclassified : ∀ site ∈ o.joins, site.Classified) {registry : Registry} {config : JoinConfig}
    {chain : JoinChain} (h : plan.toChain registry config = .ok chain) :
    chain.Shaped ∧ chain.outputArity = o.width := by
  obtain ⟨source, hsource, hbase, hstages, -, hprojection⟩ := toChain_eq_ok h
  obtain rfl := Option.some.inj (hcarries.source.symm.trans hsource)
  rw [hcarries.joins] at hstages
  have hserves : ∀ site ∈ o.joins, registry.Serves site :=
    ((List.forall₂_and_left _ _).mp ((Projection.forall₂_of_mapM hstages).imp fun _ _ hstage =>
      ⟨Registry.serves_of_toStage hstage, hstage⟩)).1
  obtain ⟨stages, hmade, hshaped, hwidth⟩ :=
    JoinChain.exists_stages config hwell.joins hclassified hserves
  obtain rfl := Except.ok.inj (hmade.symm.trans hstages)
  have hjoined : chain.joinedArity = o.joinedWidth := by
    unfold JoinChain.joinedArity
    rw [hbase]
    exact hwidth
  rw [hcarries.projection] at hprojection
  refine ⟨⟨?_, fun p hp => ?_⟩, ?_⟩
  · rw [hbase]
    exact hshaped
  · rw [hjoined]
    rw [hprojection] at hp
    exact Projection.within_iff_columns.mpr (hwell.columns p hp)
  · unfold JoinChain.outputArity Outline.width
    rw [hprojection]
    cases o.projection with
    | none => exact hjoined
    | some p => exact congrArg p.outputArity hjoined

namespace JobSpec

/-- The joins of a job have split conditions, and leave the width that planning passes on. -/
theorem classified_of_sites {job : JobSpec} {joins : List JoinSpec} {width last : Nat}
    {sites : List JoinSite} (h : job.sites width joins = .ok (sites, last))
    (hfits : ∀ site ∈ sites, ∃ behind, site.FitsBehind behind) :
    (∀ site ∈ sites, site.Classified) ∧ last = width + addedWidth sites := by
  induction joins generalizing width sites with
  | nil =>
      obtain ⟨rfl, rfl⟩ := Prod.mk.inj (Except.ok.inj h)
      exact ⟨by simp, rfl⟩
  | cons join rest ih =>
      obtain ⟨⟨site, next⟩, hsite, h⟩ := exists_of_bind_eq_ok h
      obtain ⟨⟨others, behind⟩, hothers, h⟩ := exists_of_bind_eq_ok h
      obtain ⟨rfl, rfl⟩ := Prod.mk.inj (Except.ok.inj h)
      obtain ⟨spec, hplans, rfl⟩ := site_eq_ok hsite
      obtain ⟨⟨_, t, hright, -, -, harity⟩, hrest⟩ := List.forall_mem_cons.mp hfits
      obtain ⟨hclassified, hlast⟩ := ih hothers hrest
      refine ⟨List.forall_mem_cons.mpr ⟨⟨_, _, _, hplans.split⟩, hclassified⟩, ?_⟩
      have hadded : addedWidth (site :: others) = spec.arity + addedWidth others := by
        have hspec : site.right.arity = spec.arity := by
          rw [hright]
          change t.arity = _
          rw [← harity, JoinDescriptor.eq_of_classify hplans.split]
        unfold addedWidth
        rw [List.map_cons, List.sum_cons, hspec]
      rw [hlast, hadded, Nat.add_assoc]

theorem columnNames_eq_nil {job : JobSpec} {width : Nat} (h : job.columnNames width = []) :
    width = 0 := by
  unfold columnNames at h
  split at h
  · exact List.range_eq_nil.mp (List.map_eq_nil_iff.mp h)
  next hlisted =>
    rw [h] at hlisted
    exact absurd rfl hlisted

/-- However the source rows are dealt, the rows that come out have the chain's output width. -/
theorem length_of_joinRows [KeyHasher] {chain : JoinChain} (hshaped : chain.Shaped)
    {partitions : Nat} {input rows : List Row} (h : joinRows chain partitions input = .ok rows) :
    ∀ row ∈ rows, row.length = chain.outputArity := by
  have hstart : chain.SitesReached { sites := chain.initialSites } := chain.reached_initial
  unfold joinRows at h
  simp only at h
  split at h
  · exact (hshaped.runs.executePartitioned (deal partitions input) _ hstart).2.1 rows h
  · exact (hshaped.runs.execute (input.map Pull.ofRow) _ hstart).2.1 rows h

/-- If a job without a sink runs, its columns are named and told apart by their names, and every
row has a value for each of them. -/
theorem header_of_run [KeyHasher] {job : JobSpec} {config : JoinConfig} {partitions : Nat}
    {queryId : QueryId} {output : JobOutput}
    (h : job.run config partitions queryId = .ok output) (hsink : job.sink = none) :
    (∀ name ∈ output.columns, name ≠ "") ∧ output.columns.Nodup ∧
      ∀ row ∈ output.rows, row.length = output.columns.length := by
  obtain ⟨plan, registry, chain, input, hplan, -, hchain, -, hrows, hheader⟩ := run_eq_ok h
  obtain ⟨sites, last, metadata, hsites, hassemble, hmetadata⟩ := assembled_of_plan hplan
  obtain ⟨o, hstages, hwell, hcarries, -, -, hdescribed⟩ := Plan.carries_of_assemble hassemble
  obtain rfl := Outline.eq_of_stages hstages
  obtain ⟨hcolumns, hnamed, hdistinct⟩ := RowMetadata.eq_of_ofColumns (hmetadata hsink)
  obtain ⟨hclassified, hlast⟩ := classified_of_sites hsites fun site hmem => by
    obtain ⟨before, after, hsplit⟩ := List.append_of_mem hmem
    exact ⟨_, hwell.joins before site after hsplit⟩
  obtain ⟨hshaped, hwidth⟩ := Plan.shaped_of_toChain hwell hcarries hclassified hchain
  have hcount : metadata.count = (job.outline sites).width := by
    -- metadata without columns is not checked; but then no names were made up, for want of values
    refine hwell.metadata.elim (fun hnone => ?_) id
    rw [hcolumns, List.map_eq_nil_iff] at hnone
    have hempty : (job.outline sites).width = 0 := by
      rw [← columnNames_eq_nil hnone, hlast]
      rfl
    unfold RowMetadata.count
    rw [hempty, hcolumns, hnone]
    rfl
  rw [hheader, hdescribed]
  refine ⟨hnamed, hdistinct, fun row hmem => ?_⟩
  rw [length_of_joinRows hshaped hrows row hmem, hwidth, ← hcount]
  exact (List.length_map _).symm

end JobSpec

namespace Value

theorem exact_toReportJson {v : Value} (h : v.isFloat = false) : v.toReportJson.Exact := by
  cases v with
  | null => exact .null
  | bool b => exact .bool b
  | int32 n => exact exact_int32 n
  | int64 n => exact exact_int64 n
  | float32 x => cases h
  | float64 x => cases h
  | string s => exact .string s
  | bytes b => exact exact_bytes b
  | timestamp t => exact exact_int64 t

theorem canonical_toReportJson (v : Value) : v.toReportJson.canonical = v.toReportJson := by
  cases v with
  | bytes b => exact Json.canonical_array (List.forall_mem_map.mpr fun _ _ => rfl)
  | _ => rfl

theorem fits_toReportJson (v : Value) (levels : Nat) :
    v.toReportJson.fits (levels + 1) = true := by
  cases v with
  | bytes b => exact Json.fits_array.mpr ⟨levels, rfl, List.forall_mem_map.mpr fun _ _ => rfl⟩
  | _ => rfl

end Value

namespace Report

/-- The document of a row: an object with one member for each column, which has the row's value
in the column's place. -/
def Shows (columns : List String) (row : Row) (j : Json) : Prop :=
  ∃ members, j = .object members ∧ (members.map (·.1)).Perm columns ∧
    ∀ (i : Nat) name value, columns[i]? = some name → row[i]? = some value →
      members.lookup name = some value.toReportJson

section

variable {columns : List String} {row : Row}

/-- The members of a row's object are its values by column, in ascending order of their names. -/
theorem members_perm (hdistinct : columns.Nodup) (hlength : row.length = columns.length) :
    (Json.sortMembers (columns.zip (row.map Value.toReportJson))).Perm
      (columns.zip (row.map Value.toReportJson)) := by
  refine Json.sortMembers_perm ?_
  rw [List.map_fst_zip (by simp [hlength])]
  exact hdistinct

theorem shows_rowObject (hdistinct : columns.Nodup) (hlength : row.length = columns.length) :
    Shows columns row (rowObject columns row) := by
  have hperm := members_perm hdistinct hlength
  have hnames := hperm.map (·.1)
  rw [List.map_fst_zip (by simp [hlength])] at hnames
  refine ⟨_, rfl, hnames, fun i name value hname hvalue => ?_⟩
  refine Json.lookup_of_mem (hnames.nodup_iff.mpr hdistinct) (hperm.mem_iff.mpr ?_)
  refine List.mem_of_getElem? (i := i) (List.getElem?_zip_eq_some.mpr ⟨hname, ?_⟩)
  rw [List.getElem?_map, hvalue]
  rfl

/-- What all values of a row have in their documents, the members of its object have. -/
theorem forall_members (hdistinct : columns.Nodup) (hlength : row.length = columns.length)
    (holds : Json → Prop) (h : ∀ v ∈ row, holds v.toReportJson) :
    ∀ member ∈ Json.sortMembers (columns.zip (row.map Value.toReportJson)), holds member.2 := by
  intro member hmem
  have hzip := (members_perm hdistinct hlength).mem_iff.mp hmem
  obtain ⟨v, hv, hvalue⟩ := List.mem_map.mp (List.of_mem_zip hzip).2
  exact hvalue ▸ h v hv

theorem exact_rowObject (hdistinct : columns.Nodup) (hlength : row.length = columns.length)
    (hexact : ∀ v ∈ row, v.isFloat = false) : (rowObject columns row).Exact :=
  .object (forall_members hdistinct hlength Json.Exact fun v hv =>
    Value.exact_toReportJson (hexact v hv))

theorem fits_rowObject (hdistinct : columns.Nodup) (hlength : row.length = columns.length)
    (levels : Nat) : (rowObject columns row).fits (levels + 2) = true := by
  refine Json.fits_object.mpr ⟨levels + 1, rfl, ?_⟩
  exact forall_members hdistinct hlength (fun j => j.fits (levels + 1) = true) fun v _ =>
    v.fits_toReportJson levels

theorem canonical_rowObject (hdistinct : columns.Nodup) (hlength : row.length = columns.length) :
    (rowObject columns row).canonical = rowObject columns row := by
  refine Json.canonical_object (Json.ascending_sortMembers _) ?_
  exact forall_members hdistinct hlength (fun j => j.canonical = j) fun v _ =>
    v.canonical_toReportJson

end

/-- A report without floating-point numbers is read back as the objects of its rows. -/
theorem document_of_json {output : JobOutput} (hdistinct : output.columns.Nodup)
    (hwidth : ∀ row ∈ output.rows, row.length = output.columns.length)
    (hexact : ∀ row ∈ output.rows, ∀ v ∈ row, v.isFloat = false) :
    Json.decode? Json.document? (json output) =
      some (.array (output.rows.map (rowObject output.columns))) := by
  let objects := output.rows.map (rowObject output.columns)
  have hread : (Json.array objects).Exact :=
    .array (List.forall_mem_map.mpr fun row hmem =>
      exact_rowObject hdistinct (hwidth row hmem) (hexact row hmem))
  have hfits : (Json.array objects).fits Json.maxDepth = true :=
    Json.fits_array.mpr ⟨126, rfl, List.forall_mem_map.mpr fun row hmem =>
      fits_rowObject hdistinct (hwidth row hmem) 124⟩
  have hcanonical : (Json.array objects).canonical = .array objects :=
    Json.canonical_array (List.forall_mem_map.mpr fun row hmem =>
      canonical_rowObject hdistinct (hwidth row hmem))
  unfold Json.decode? json
  rw [hread.parse?_pretty]
  change Json.document? Json.maxDepth (.array objects) = _
  unfold Json.document?
  rw [hfits, hcanonical]
  rfl

end Report

namespace JobSpec

/-- A job's output fits its header, so its JSON report loses no cell. If a job without a sink
runs, its columns are named and told apart by their names, and every row has as many values as
there are columns. The report is an array of one object for each row, in order, with one member
for each column and the row's value in it; without floating-point numbers it is read back as this
array. -/
theorem run_fits_header [KeyHasher] {job : JobSpec} {config : JoinConfig} {partitions : Nat}
    {queryId : QueryId} {output : JobOutput}
    (h : job.run config partitions queryId = .ok output) (hsink : job.sink = none) :
    (∀ name ∈ output.columns, name ≠ "") ∧ output.columns.Nodup ∧
      (∀ row ∈ output.rows, row.length = output.columns.length) ∧
      ∃ objects, ReportFormat.json.output output = (Json.array objects).pretty ∧
        List.Forall₂ (Report.Shows output.columns) output.rows objects ∧
        ((∀ row ∈ output.rows, ∀ v ∈ row, v.isFloat = false) →
          Json.decode? Json.document? (ReportFormat.json.output output) =
            some (.array objects)) := by
  obtain ⟨hnamed, hdistinct, hwidth⟩ := header_of_run h hsink
  refine ⟨hnamed, hdistinct, hwidth, _, rfl, ?_, Report.document_of_json hdistinct hwidth⟩
  refine List.forall₂_map_right_iff.mpr (List.forall₂_same.mpr fun row hmem => ?_)
  exact Report.shows_rowObject hdistinct (hwidth row hmem)

/-- Two joined rows come out under names that do not ascend. -/
theorem run_fits_header_of_joins :
    let int (n : Int) : Json := .number (.int n)
    let job : JobSpec := {
      source := ⟨"s", 2, [[int 1, .string "x\n"], [int 2, .null]], false⟩
      relations := [⟨"r", .bounded, 2, [], 1, [[int 1, .bool true], [int 2, int 3000000000]]⟩]
      joins := [⟨"r", none, [(0, 0)]⟩]
      projection := some ⟨none, [.column 3, .column 1]⟩
      columns := ["z", "a"]
      sink := none }
    ∃ output objects, job.run {} 2 ⟨1, 1⟩ = .ok output ∧ output.columns = ["z", "a"] ∧
      output.rows = [[.bool true, .string "x\n"], [.int64 3000000000, .null]] ∧
      List.Forall₂ (Report.Shows output.columns) output.rows objects ∧
      Json.decode? Json.document? (ReportFormat.json.output output) = some (.array objects) := by
  intro int job
  obtain ⟨output, hrun, hout⟩ : ∃ output, job.run {} 2 ⟨1, 1⟩ = .ok output ∧
      (output.columns, output.rows) =
        (["z", "a"], [[.bool true, .string "x\n"], [.int64 3000000000, .null]]) :=
    exists_of_toOption_map (by decide +kernel)
  obtain ⟨hcolumns, hrows⟩ := Prod.mk.inj hout
  obtain ⟨-, -, -, objects, -, hshown, hread⟩ := run_fits_header hrun rfl
  refine ⟨output, objects, hrun, hcolumns, hrows, hshown, hread ?_⟩
  rw [hrows]
  decide

end JobSpec

end JoinEngine
