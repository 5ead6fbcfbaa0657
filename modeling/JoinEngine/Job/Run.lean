import JoinEngine.Job.Spec
import JoinEngine.Plan.Launch

/-!
Planning and running a job. Joins are planned against the first relation of their name, each
for the width that the joins before it leave. The rows of the relations are taken over before
any row is joined. With more than one partition the source rows are dealt round-robin.
-/

namespace JoinEngine

/-- The row value of a scalar document: integers take the narrowest kind that holds them, and
become floating-point numbers if none does. -/
def Value.ofScalar (j : Json) : Except JobError Value :=
  match j with
  | .null => .ok .null
  | .bool b => .ok (.bool b)
  | .number (.int n) =>
    if Int32.minValue.toInt ≤ n ∧ n ≤ Int32.maxValue.toInt then .ok (.int32 (Int32.ofInt n))
    else if Int64.minValue.toInt ≤ n ∧ n ≤ Int64.maxValue.toInt then .ok (.int64 (Int64.ofInt n))
    else .ok (.float64 (Double.ofInt n))
  | .number (.double x) => .ok (.float64 x)
  | .number (.single x) => .ok (.float64 (Double.ofSingle x))
  | .string s => .ok (.string s)
  | j => .error (.job (.unsupportedValue j))

def Row.ofScalars (rows : List (List Json)) : Except JobError (List Row) :=
  rows.mapM fun row => row.mapM Value.ofScalar

/-- What a job gives: named columns and rows, or the target they are written to. -/
structure JobOutput where
  columns : List String
  rows : List Row
  sink : Option String

namespace RelationSpec

def toRelation [KeyHasher] (spec : RelationSpec) : Except JobError RightRelation := do
  let rows ← Row.ofScalars spec.rows
  match spec.kind with
  | .bounded =>
    let memory ← (MemoryRelation.ofRows spec.name spec.arity rows false).mapError .join
    return .bounded memory.source
  | .rescan =>
    let memory ← (MemoryRelation.ofRows spec.name spec.arity rows false).mapError .join
    return .rescan memory.source
  | .partitioned =>
    let empty ← (KeyedMap.empty spec.name spec.arity spec.keyColumns spec.partitions).mapError
      .join
    let (result, map) := empty.insertAll rows
    result.mapError .join
    return .partitioned map.source

end RelationSpec

namespace JobSpec

def relation (job : JobSpec) (name : String) : Except JobError RelationSpec :=
  match job.relations.find? (·.name == name) with
  | some relation => .ok relation
  | none => .error (.job (.unknownRelation name))

/-- The site of a join whose left rows have a given width. -/
def site (job : JobSpec) (width : Nat) (join : JoinSpec) :
    Except JobError (JoinSite × Nat) := do
  let relation ← job.relation join.relation
  let right := RelationRef.table { name := relation.name, arity := relation.arity }
  match join.condition, join.usingColumns with
  | some condition, [] =>
    let site ← (JoinSite.classify right relation.kind condition width).mapError .join
    return (site, width + relation.arity)
  | none, pair :: pairs =>
    let descriptor ←
      (JoinDescriptor.ofUsing (pair :: pairs) width relation.arity).mapError .join
    return (⟨right, relation.kind, descriptor⟩, width + relation.arity)
  | _, _ => throw (.job (.joinForm join.relation))

def sites (job : JobSpec) (width : Nat) : List JoinSpec →
    Except JobError (List JoinSite × Nat)
  | [] => .ok ([], width)
  | join :: rest => do
    let (site, width) ← job.site width join
    let (others, width) ← job.sites width rest
    return (site :: others, width)

/-- Names for output columns that have none. -/
def columnNames (job : JobSpec) (width : Nat) : List String :=
  if job.columns.isEmpty then (List.range width).map fun i => s!"c{i}" else job.columns

def plan (job : JobSpec) (queryId : QueryId) : Except JobError Plan := do
  let source : TableRef :=
    { name := job.source.name, arity := job.source.arity, unbounded := job.source.unbounded }
  let (sites, joined) ← job.sites source.arity job.joins
  let width := match job.projection with
    | some p => p.outputArity joined
    | none => joined
  let metadata ← match job.sink with
    | some _ => pure RowMetadata.empty
    | none =>
      let columns := (job.columnNames width).map fun name => ⟨name, .unknown⟩
      (RowMetadata.ofColumns columns).mapError .shape
  let stages := PlanStage.source source :: sites.map .join
    ++ (job.projection.map PlanStage.project).toList
    ++ (job.sink.map PlanStage.sink).toList
  (Plan.assemble stages job.sink.isSome queryId metadata).mapError .join

def registry [KeyHasher] (job : JobSpec) : Except JobError Registry :=
  job.relations.foldlM (fun registry spec => do
    let relation ← spec.toRelation
    return registry.register relation) Registry.empty

/-- Join the source rows, dealt to partitions if there are several. -/
def joinRows [KeyHasher] (chain : JoinChain) (partitions : Nat) (rows : List Row) :
    Except JoinError (List Row) :=
  let start : ChainState := { sites := chain.initialSites }
  if 1 < partitions then (chain.executePartitioned (deal partitions rows) start).1
  else (chain.execute (rows.map Pull.ofRow) start).1

def run [KeyHasher] (job : JobSpec) (config : JoinConfig) (partitions : Nat)
    (queryId : QueryId) : Except JobError JobOutput := do
  let plan ← job.plan queryId
  let registry ← job.registry
  let chain ← (plan.toChain registry config).mapError .join
  let input ← Row.ofScalars job.source.rows
  let rows ← (joinRows chain partitions input).mapError .join
  return {
    columns := plan.metadata.columns.map (·.name)
    rows
    sink := plan.sink? }

end JobSpec

end JoinEngine
