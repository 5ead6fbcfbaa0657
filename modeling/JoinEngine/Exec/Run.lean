import JoinEngine.Exec.Session
import JoinEngine.Row

/-!
Runs: computations that may fail and keep their state either way. The input of a run is pulled
item by item, and pulling an item may cancel the query or fail. Work on partitions is dealt
round-robin to workers; a worker stops at its first failure, the others go on, and the failure
of the first worker that has one is the failure of the run.
-/

namespace JoinEngine

/-- Steps over some state that may fail, with the state kept either way. -/
abbrev Run (σ α : Type) := ExceptT JoinError (StateM σ) α

/-- One item of a driving input. -/
structure Pull where
  /-- Whether the query is cancelled while the item is pulled. -/
  cancels : Bool := false
  item : Except JoinError Row

namespace Pull

def ofRow (row : Row) : Pull := { item := .ok row }

end Pull

/-- Where a run ends because the query was cancelled, clean up. -/
def releasingOnCancel {σ α : Type} (release : σ → σ) (run : Run σ α) : Run σ α := fun s =>
  match run s with
  | (.error .cancelled, s) => (.error .cancelled, release s)
  | other => other

/-- Deal items to `n` hands in turn. -/
def deal {α : Type} (n : Nat) (items : List α) : List (List α) :=
  (List.range n).map fun hand =>
    items.zipIdx.filterMap fun (item, i) => if i % n = hand then some item else none

def workerCount (parallelism partitions : Nat) : Nat :=
  min (max parallelism 1) (max partitions 1)

def runWorker {σ α : Type} (work : List α → Run σ (List Row)) :
    List (List α) → Run σ (List Row)
  | [] => return []
  | batch :: rest => do
    let rows ← work batch
    let others ← runWorker work rest
    return rows ++ others

/-- The rows of all workers, or the first failure. -/
def gather : List (Except JoinError (List Row)) → Except JoinError (List Row)
  | [] => .ok []
  | result :: rest => do
    let rows ← result
    let others ← gather rest
    return rows ++ others

/-- Run the work of all partitions, one worker after the other. -/
def runPartitioned {σ α : Type} (parallelism : Nat) (work : List α → Run σ (List Row))
    (partitions : List (List α)) : Run σ (List Row) := do
  let hands := deal (workerCount parallelism partitions.length) partitions
  let results ← (hands.mapM fun hand => (runWorker work hand).run : StateM σ _)
  gather results

end JoinEngine
