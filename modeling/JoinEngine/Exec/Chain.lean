import JoinEngine.Exec.Projection
import JoinEngine.Exec.StageRun

/-!
Joins one after the other. Each driving row passes all sites from left to right; the rows that
leave a site are the left rows of the next, so every site's descriptor was made for the row as
wide as the sites before it leave it. What leaves the last site is filtered and projected.
-/

namespace JoinEngine

structure JoinChain where
  baseArity : Nat
  stages : List JoinStage
  projection : Option Projection := none
  parallelism : Nat := 1

/-- What a chain runs on: the query's shared state and a site for every stage. -/
structure ChainState where
  session : Session := {}
  sites : List Site

namespace ChainState

/-- Empty the slots of all materialized sides. -/
def release (s : ChainState) : ChainState :=
  { s with sites := s.sites.map fun site => { site with build := {} } }

end ChainState

namespace JoinChain

/-- Every stage must have been made for the width that its left rows have. -/
def checkWidths (position width : Nat) : List JoinStage → Except JoinError Unit
  | [] => .ok ()
  | stage :: rest =>
    if stage.descriptor.leftArity ≠ width then
      .error (.plan (.siteWidth position stage.descriptor.leftArity width))
    else checkWidths (position + 1) (width + stage.descriptor.rightArity) rest

def create (baseArity : Nat) (stages : List JoinStage) : Except JoinError JoinChain := do
  checkWidths 0 baseArity stages
  return { baseArity, stages }

def joinedArity (c : JoinChain) : Nat :=
  c.stages.foldl (fun width stage => width + stage.descriptor.rightArity) c.baseArity

def outputArity (c : JoinChain) : Nat :=
  match c.projection with
  | some p => p.outputArity c.joinedArity
  | none => c.joinedArity

def withProjection (c : JoinChain) (p : Projection) : Except JoinError JoinChain := do
  p.validate c.joinedArity
  return { c with projection := some p }

def withParallelism (c : JoinChain) (n : Nat) : JoinChain := { c with parallelism := max n 1 }

def initialSites (c : JoinChain) : List Site := c.stages.map fun _ => {}

/-- Push rows through stages, each with its site. A site that lets nothing through ends it. -/
def push [KeyHasher] : List JoinStage → List Site → List Row → Session →
    Except JoinError (List Row) × List Site × Session
  | stage :: stages, site :: sites, rows, session =>
    match Probe.collect (rows.forM stage.probeRow) ⟨session, site⟩ with
    | (.error e, s) => (.error e, s.site :: sites, s.session)
    | (.ok [], s) => (.ok [], s.site :: sites, s.session)
    | (.ok next, s) =>
      let (result, sites, session) := push stages sites next s.session
      (result, s.site :: sites, session)
  | _, sites, rows, session => (.ok rows, sites, session)

def pushAll [KeyHasher] (c : JoinChain) (rows : List Row) : Run ChainState (List Row) :=
  fun s =>
    let (result, sites, session) := push c.stages s.sites rows s.session
    (result, ⟨session, sites⟩)

def onSession {α : Type} (run : Run Session α) : Run ChainState α := fun s =>
  let (result, session) := run s.session
  (result, { s with session })

def finishRows (c : JoinChain) (rows : List Row) : Run ChainState (List Row) :=
  match c.projection with
  | none => return rows
  | some p => onSession (p.applyAll rows)

def processRow [KeyHasher] (c : JoinChain) (row : Row) : Run ChainState (List Row) := do
  (← get).session.check
  liftM ((row.expectArity c.baseArity).mapError JoinError.shape)
  let rows ← c.pushAll [row]
  c.finishRows rows

def pull (p : Pull) : Run ChainState Row := do
  if p.cancels then modify fun s => { s with session := s.session.cancel }
  p.item

/-- Process driving items in order, up to the first failure. -/
def processAll [KeyHasher] (c : JoinChain) : List Pull → Run ChainState (List Row)
  | [] => return []
  | p :: rest => do
    let row ← pull p
    let rows ← c.processRow row
    let others ← c.processAll rest
    return rows ++ others

/-- Run the chain over a whole driving input. On cancellation all sites are released. -/
def execute [KeyHasher] (c : JoinChain) (input : List Pull) : Run ChainState (List Row) :=
  releasingOnCancel ChainState.release (c.processAll input)

/-- Run the chain over partitions of a driving input on workers. -/
def executePartitioned [KeyHasher] (c : JoinChain) (partitions : List (List Row)) :
    Run ChainState (List Row) :=
  releasingOnCancel ChainState.release <|
    runPartitioned c.parallelism (fun rows => c.processAll (rows.map Pull.ofRow)) partitions

def dump (c : JoinChain) : String :=
  let projection := match c.projection with
    | some p => "Some(" ++ p.dump ++ ")"
    | none => "None"
  "JoinChain \x7b base_arity: " ++ toString c.baseArity ++ ", stages: ["
    ++ String.intercalate ", " (c.stages.map JoinStage.dump) ++ "], projection: "
    ++ projection ++ " \x7d"

end JoinChain

end JoinEngine
