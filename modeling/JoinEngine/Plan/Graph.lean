import JoinEngine.Condition.Split
import JoinEngine.Exec.Projection

/-!
The graph of a plan. Vertices are numbered in the order they were added, and an edge is added
after both of its ends and goes from the lower number to the higher.
-/

namespace JoinEngine

/-- A join in a plan: the right relation, its kind, and the condition made ready. -/
structure JoinSite where
  right : RelationRef
  kind : RelationKind
  descriptor : JoinDescriptor

namespace JoinSite

def classify (right : RelationRef) (kind : RelationKind) (condition : Expr) (leftArity : Nat) :
    Except JoinError JoinSite := do
  let descriptor ← JoinDescriptor.classifyJoin right condition leftArity
  return ⟨right, kind, descriptor⟩

def tableName (site : JoinSite) : Except JoinError String :=
  match site.right with
  | .table t => .ok t.name
  | .subquery _ => .error .subqueryOnRight

end JoinSite

inductive VertexKind where
  /-- The driving input. -/
  | source (table : TableRef)
  | join (site : JoinSite)
  /-- The right relation of a join. -/
  | right (name : String) (kind : RelationKind) (unbounded : Bool)
  | project (projection : Projection)
  | sink (target : String)

structure Vertex where
  id : Nat
  name : String
  kind : VertexKind

namespace Vertex

def isUnbounded (v : Vertex) : Bool :=
  match v.kind with
  | .source table => table.unbounded
  | .right _ _ unbounded => unbounded
  | _ => false

end Vertex

inductive EdgeKind where
  /-- As a stream into the next stage. -/
  | stream
  /-- As a right relation that a join probes. -/
  | probe
  deriving DecidableEq

def EdgeKind.name : EdgeKind → String
  | .stream => "Stream"
  | .probe => "Probe"

structure Edge where
  source : Nat
  target : Nat
  kind : EdgeKind
  deriving DecidableEq

structure PlanGraph where
  vertices : List Vertex := []
  edges : List Edge := []

namespace PlanGraph

def nextId (g : PlanGraph) : Nat := g.vertices.length

def addVertex (g : PlanGraph) (name : String) (kind : VertexKind) : PlanGraph :=
  { g with vertices := g.vertices ++ [⟨g.nextId, name, kind⟩] }

def addEdge (g : PlanGraph) (source target : Nat) (kind : EdgeKind) : PlanGraph :=
  { g with edges := g.edges ++ [⟨source, target, kind⟩] }

def vertex? (g : PlanGraph) (id : Nat) : Option Vertex := g.vertices[id]?

def inbound (g : PlanGraph) (id : Nat) : List Edge := g.edges.filter (·.target == id)

def outbound (g : PlanGraph) (id : Nat) : List Edge := g.edges.filter (·.source == id)

/-- Vertices that no edge leads to. -/
def leaves (g : PlanGraph) : List Vertex :=
  g.vertices.filter fun v => (g.inbound v.id).isEmpty

def isEmpty (g : PlanGraph) : Bool := g.vertices.isEmpty

end PlanGraph

end JoinEngine
