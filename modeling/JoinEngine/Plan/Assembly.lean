import JoinEngine.Plan.Graph
import JoinEngine.QueryId
import JoinEngine.RowMetadata

/-!
Assembling a plan from its stages in order: one source, then joins, then at most one
projection, then a sink exactly if rows are inserted. Each join must have been made for the
width of its left rows and for the columns of its table, and the metadata must describe the
rows that come out. Whether a plan streams is read off its leaves. What a caller says of that is
compared with it for a warning in the log only, and is no argument here.
-/

namespace JoinEngine

inductive PlanStage where
  | source (table : TableRef)
  | join (site : JoinSite)
  | project (projection : Projection)
  | sink (target : String)

structure Plan where
  graph : PlanGraph
  /-- Whether some leaf makes rows without end. -/
  streaming : Bool
  insert : Bool
  queryId : QueryId
  metadata : RowMetadata

namespace Plan

def source? (p : Plan) : Option TableRef :=
  p.graph.vertices.findSome? fun v =>
    match v.kind with
    | .source table => some table
    | _ => none

/-- The joins in the order they are executed. -/
def joinSites (p : Plan) : List JoinSite :=
  p.graph.vertices.filterMap fun v =>
    match v.kind with
    | .join site => some site
    | _ => none

def projection? (p : Plan) : Option Projection :=
  p.graph.vertices.findSome? fun v =>
    match v.kind with
    | .project projection => some projection
    | _ => none

def sink? (p : Plan) : Option String :=
  p.graph.vertices.findSome? fun v =>
    match v.kind with
    | .sink target => some target
    | _ => none

/-- A text that explains the plan. There is none so far. -/
def explain (_ : Plan) : Except JoinError String := .error (.unsupported "plan explanation")

end Plan

structure Assembly where
  graph : PlanGraph
  /-- The vertex whose rows the next stage receives. -/
  tail : Nat
  /-- The width of these rows. -/
  width : Nat
  projected : Bool := false
  sunk : Bool := false

namespace Assembly

def ofSource (table : TableRef) : Assembly where
  graph := PlanGraph.addVertex {} s!"source({table.name})" (.source table)
  tail := 0
  width := table.arity

def extend (a : Assembly) (name : String) (kind : VertexKind) : Assembly :=
  let id := a.graph.nextId
  { a with graph := (a.graph.addVertex name kind).addEdge a.tail id .stream, tail := id }

/-- Add a join: a vertex for its right relation, and one that the rows and the relation both
lead to. -/
def addJoin (a : Assembly) (site : JoinSite) : Except JoinError Assembly :=
  match site.right with
  | .subquery _ => .error .subqueryOnRight
  | .table t =>
    if t.unbounded then .error (.unboundedRight t.name)
    else if site.descriptor.leftArity ≠ a.width then
      .error (.plan (.joinLeftArity t.name site.descriptor.leftArity a.width))
    else if site.descriptor.rightArity ≠ t.arity then
      .error (.plan (.joinRightArity t.name site.descriptor.rightArity t.arity))
    else
      let right := a.graph.nextId
      let withRight :=
        { a with graph := a.graph.addVertex s!"right({t.name})" (.right t.name site.kind false) }
      let joined := withRight.extend s!"join({t.name})" (.join site)
      .ok { joined with
        graph := joined.graph.addEdge right joined.tail .probe
        width := a.width + t.arity }

def add (a : Assembly) (stage : PlanStage) : Except JoinError Assembly :=
  if a.sunk then .error (.plan .afterSink)
  else
    match stage with
    | .source _ => .error (.plan .sourceFirst)
    | .join site =>
      if a.projected then .error (.plan .joinAfterProjection) else a.addJoin site
    | .project projection =>
      if a.projected then .error (.plan .secondProjection)
      else do
        projection.validate a.width
        return { a.extend "project" (.project projection) with
          width := projection.outputArity a.width
          projected := true }
    | .sink target =>
      .ok { a.extend s!"sink({target})" (.sink target) with sunk := true }

def finish (a : Assembly) (insert : Bool) (queryId : QueryId) (metadata : RowMetadata) :
    Except JoinError Plan :=
  if insert && !a.sunk then .error (.plan .sinkMissing)
  else if !insert && a.sunk then .error (.plan .sinkUnexpected)
  else if !metadata.columns.isEmpty && metadata.count != a.width then
    .error (.plan (.metadataWidth metadata.count a.width))
  else
    .ok {
      graph := a.graph
      streaming := a.graph.leaves.any Vertex.isUnbounded
      insert
      queryId
      metadata }

end Assembly

def Plan.assemble (stages : List PlanStage) (insert : Bool) (queryId : QueryId)
    (metadata : RowMetadata) : Except JoinError Plan :=
  match stages with
  | .source table :: rest => do
    let a ← rest.foldlM Assembly.add (Assembly.ofSource table)
    a.finish insert queryId metadata
  | _ => .error (.plan .sourceFirst)

end JoinEngine
