import JoinEngine.Exec.Run
import JoinEngine.Exec.Stage

/-!
A stage run over a whole left input. When the run ends because the query was cancelled, the
materialized side is released and no rows are returned.
-/

namespace JoinEngine

/-- What a stage runs on: the query's shared state and the stage's own. -/
structure StageState where
  session : Session := {}
  site : Site := {}

namespace StageState

def release (s : StageState) : StageState := { s with site := { s.site with build := {} } }

end StageState

namespace Probe

/-- The rows that some steps emit. -/
def collect (steps : Probe Unit) : Run StageState (List Row) := fun s =>
  match steps ⟨s.session, s.site, #[]⟩ with
  | (.ok (), t) => (.ok t.emitted.toList, ⟨t.session, t.site⟩)
  | (.error e, t) => (.error e, ⟨t.session, t.site⟩)

def pull (p : Pull) : Probe Row := do
  if p.cancels then modify fun s => { s with session := s.session.cancel }
  p.item

end Probe

namespace JoinStage

def execute [KeyHasher] (stage : JoinStage) (input : List Pull) :
    Run StageState (List Row) :=
  releasingOnCancel StageState.release <| Probe.collect <| input.forM fun p => do
    let left ← Probe.pull p
    stage.probeRow left

def executePartitioned [KeyHasher] (stage : JoinStage) (partitions : List (List Row)) :
    Run StageState (List Row) :=
  releasingOnCancel StageState.release <|
    runPartitioned stage.config.parallelism
      (fun rows => Probe.collect (rows.forM stage.probeRow)) partitions

end JoinStage

end JoinEngine
