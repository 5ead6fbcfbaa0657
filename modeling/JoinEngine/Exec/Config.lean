/-!
Options of join execution. None of them changes the rows of a join; the limit on rows decides
whether a relation may be materialized at all.
-/

namespace JoinEngine

structure JoinConfig where
  /-- The number of workers over partitioned input. -/
  parallelism : Nat := 1
  /-- The most rows materialized of one right relation; no limit if absent. -/
  maxBuildRows : Option Nat := some 10000000
  /-- The number of rows an index is made for at least. -/
  capacityHint : Nat := 1024
  collectMetrics : Bool := true
  deriving DecidableEq

namespace JoinConfig

def withParallelism (c : JoinConfig) (n : Nat) : JoinConfig := { c with parallelism := max n 1 }

def withMaxBuildRows (c : JoinConfig) (n : Nat) : JoinConfig := { c with maxBuildRows := some n }

def withUnlimitedBuild (c : JoinConfig) : JoinConfig := { c with maxBuildRows := none }

def withCapacityHint (c : JoinConfig) (n : Nat) : JoinConfig := { c with capacityHint := n }

def withMetrics (c : JoinConfig) (enabled : Bool) : JoinConfig :=
  { c with collectMetrics := enabled }

end JoinConfig

end JoinEngine
