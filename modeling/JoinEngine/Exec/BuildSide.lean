import JoinEngine.Exec.Config
import JoinEngine.Key.Index
import JoinEngine.Relation.Source

/-!
A materialized right side: its rows back to back in one array, and an index over the rows whose
key has no null. It is made once and shared by all that probe it; `SharedBuild` is the slot it
waits in. Memory is taken to be there, so room asked for in advance changes nothing but the
number of buckets.
-/

namespace JoinEngine

/-- Rows of one arity, back to back. -/
structure RowArena where
  arity : Nat
  values : Array Value
  size : Nat

namespace RowArena

def empty (arity : Nat) : RowArena := ⟨arity, #[], 0⟩

def push (a : RowArena) (row : Row) : RowArena :=
  { a with values := row.foldl Array.push a.values, size := a.size + 1 }

def row (a : RowArena) (position : Nat) : Row :=
  (a.values.extract (position * a.arity) (position * a.arity + a.arity)).toList

def rows (a : RowArena) : List Row := (List.range a.size).map a.row

end RowArena

structure BuildSide where
  arena : RowArena
  index : Option HashIndex

namespace BuildSide

/-- Store a row, and index it unless a component of its key is null. -/
def add [KeyHasher] (arity : Nat) (keys : List Nat) (side : BuildSide) (row : Row) :
    Except JoinError BuildSide := do
  (row.expectArity arity).mapError .shape
  let position := side.arena.size
  let index := side.index.map fun table =>
    match row.key keys with
    | some key => table.insert (hashKey key) position
    | none => table
  return ⟨side.arena.push row, index⟩

/-- A side without rows; it has an index if there are key columns to index. -/
def start (arity : Nat) (keys : Option (List Nat)) (capacity : Nat) : BuildSide :=
  ⟨RowArena.empty arity, keys.map fun _ => HashIndex.withCapacity capacity⟩

/-- The side of rows already read. The index is made for at least `capacityHint` rows. -/
def ofRows [KeyHasher] (rows : List Row) (arity : Nat) (keys : Option (List Nat))
    (capacityHint : Nat) : Except JoinError BuildSide :=
  if maxIndexedRows < rows.length then
    .error (.plan (.indexCapacity rows.length maxIndexedRows))
  else
    rows.foldlM (add arity (keys.getD [])) (start arity keys (max rows.length capacityHint))

def rowLimit (config : JoinConfig) : Nat :=
  match config.maxBuildRows with
  | some limit => min limit maxIndexedRows
  | none => maxIndexedRows

def ofScan [KeyHasher] (relation : RightRelation) (keys : Option (List Nat))
    (config : JoinConfig) (rows : List Row) : Except JoinError BuildSide :=
  if rowLimit config < rows.length then .error (.buildLimit relation.name (rowLimit config))
  else ofRows rows relation.arity keys config.capacityHint

/-- The positions of rows that may have a key with the given hash, newest first. -/
def candidates (side : BuildSide) (hash : UInt64) : List Nat :=
  match side.index with
  | some table => table.probe hash
  | none => []

def isIndexed (side : BuildSide) : Bool := side.index.isSome

/-- The number of rows with a key free of nulls. -/
def indexedRows (side : BuildSide) : Nat :=
  match side.index with
  | some table => table.size
  | none => 0

def size (side : BuildSide) : Nat := side.arena.size

end BuildSide

/-- The slot of a side that is made when it is first needed. -/
structure SharedBuild where
  side : Option BuildSide := none

namespace SharedBuild

def isBuilt (b : SharedBuild) : Bool := b.side.isSome

/-- The side in the slot, which is made first if the slot is empty. A build that fails leaves
the slot empty, so that the next caller tries again. -/
def getOrBuild {σ : Type} (b : SharedBuild) (build : StateM σ (Except JoinError BuildSide)) :
    StateM σ (Except JoinError BuildSide × SharedBuild) :=
  match b.side with
  | some side => pure (.ok side, b)
  | none => do
    match ← build with
    | .ok side => return (.ok side, ⟨some side⟩)
    | .error e => return (.error e, b)

/-- Empty the slot, and tell whether it held a side. -/
def release (b : SharedBuild) : Bool × SharedBuild := (b.isBuilt, {})

end SharedBuild

end JoinEngine
