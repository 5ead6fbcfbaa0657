/-!
Relations as a planner names them, before anything is known about their rows.
-/

namespace JoinEngine

inductive RelationKind where
  /-- Finite, and read once. -/
  | bounded
  /-- Stored by key in partitions. -/
  | partitioned
  /-- Read again for every left row. -/
  | rescan
  deriving DecidableEq

namespace RelationKind

def display : RelationKind → String
  | bounded => "bounded"
  | partitioned => "partitioned"
  | rescan => "rescan"

def dump : RelationKind → String
  | bounded => "Bounded"
  | partitioned => "Partitioned"
  | rescan => "Rescan"

def names : List (String × RelationKind) :=
  [("bounded", bounded), ("partitioned", partitioned), ("rescan", rescan)]

end RelationKind

structure TableRef where
  name : String
  arity : Nat
  unbounded : Bool := false
  deriving DecidableEq

structure DerivedTable where
  name : String
  arity : Nat
  deriving DecidableEq

inductive RelationRef where
  | table (table : TableRef)
  | subquery (derived : DerivedTable)
  deriving DecidableEq

def RelationRef.arity : RelationRef → Nat
  | .table t => t.arity
  | .subquery d => d.arity

end JoinEngine
