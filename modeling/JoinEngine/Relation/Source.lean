import JoinEngine.Relation.KeyedMap
import JoinEngine.Relation.Reference

/-!
Right relations: where the rows of a join's right side come from. A source answers scans and,
if it is keyed, lookups; an answer may depend on how many such calls were made before, so a
source can fail now and succeed later. A relation in memory always gives the same rows.
-/

namespace JoinEngine

structure ScanSource where
  name : String
  arity : Nat
  unbounded : Bool
  /-- The answer to a scan, given the number of scans before it. -/
  scan : Nat → Except JoinError (List Row)

structure KeyedSource where
  name : String
  arity : Nat
  /-- The columns that make up the key, in key order. -/
  keyColumns : List Nat
  partitionCount : Nat
  /-- The answer to a scan, given the number of scans before it. -/
  scan : Nat → Except JoinError (List Row)
  /-- The rows of a key, given the number of lookups before. -/
  lookup : Nat → List Value → Except JoinError (List Row)

structure MemoryRelation where
  name : String
  arity : Nat
  rows : List Row
  unbounded : Bool

namespace MemoryRelation

/-- The first row of another arity is refused. -/
def ofRows (name : String) (arity : Nat) (rows : List Row) (unbounded : Bool) :
    Except JoinError MemoryRelation := do
  rows.forM fun row => (row.expectArity arity).mapError .shape
  return ⟨name, arity, rows, unbounded⟩

def source (r : MemoryRelation) : ScanSource :=
  ⟨r.name, r.arity, r.unbounded, fun _ => .ok r.rows⟩

end MemoryRelation

def KeyedMap.source [KeyHasher] (m : KeyedMap) : KeyedSource :=
  ⟨m.name, m.arity, m.keyColumns, m.partitionCount, fun _ => .ok m.rows, fun _ => m.lookup⟩

inductive RightRelation where
  | bounded (source : ScanSource)
  | partitioned (source : KeyedSource)
  | rescan (source : ScanSource)

namespace RightRelation

def name : RightRelation → String
  | bounded s => s.name
  | partitioned s => s.name
  | rescan s => s.name

def arity : RightRelation → Nat
  | bounded s => s.arity
  | partitioned s => s.arity
  | rescan s => s.arity

def kind : RightRelation → RelationKind
  | bounded _ => .bounded
  | partitioned _ => .partitioned
  | rescan _ => .rescan

def isUnbounded : RightRelation → Bool
  | bounded s => s.unbounded
  | partitioned _ => false
  | rescan s => s.unbounded

/-- The answer to a scan, given the number of scans before it. -/
def scan : RightRelation → Nat → Except JoinError (List Row)
  | bounded s => s.scan
  | partitioned s => s.scan
  | rescan s => s.scan

def dump (r : RightRelation) : String :=
  "RightRelation \x7b name: " ++ Text.quote r.name ++ ", kind: " ++ r.kind.dump
    ++ ", arity: " ++ toString r.arity ++ " \x7d"

end RightRelation

end JoinEngine
