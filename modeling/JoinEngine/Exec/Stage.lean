import JoinEngine.Condition.Descriptor
import JoinEngine.Exec.BuildSide
import JoinEngine.Exec.Counters
import JoinEngine.Exec.Session
import JoinEngine.Expr.Eval

/-!
One join site at work. A stage binds a descriptor to a right relation; it settles once whether
it matches by key or by the whole condition, and whether the right rows are materialized,
looked up or scanned again for each left row. What changes while it runs is its `Site`: the
slot of the materialized side and the counters. Joining a left row emits the joined rows into
the caller's buffer, where they stay even if the row fails later on.
-/

namespace JoinEngine

/-- How a stage finds the right rows of a left row. -/
inductive JoinMode where
  /-- By equal keys, then by the residual. -/
  | hashProbe
  /-- By the whole condition on every right row. -/
  | fullScan
  deriving DecidableEq

/-- How a stage reaches its right rows. -/
inductive RightAccess where
  /-- Read once into a shared side. -/
  | materialized
  /-- Looked up by key for each left row. -/
  | lookup
  /-- Read again for each left row. -/
  | rescan
  deriving DecidableEq

def JoinMode.name : JoinMode → String
  | .hashProbe => "HashProbe"
  | .fullScan => "FullScan"

def RightAccess.name : RightAccess → String
  | .materialized => "Materialized"
  | .lookup => "Lookup"
  | .rescan => "Rescan"

structure JoinStage where
  descriptor : JoinDescriptor
  right : RightRelation
  config : JoinConfig
  mode : JoinMode
  access : RightAccess
  /-- Left columns that make up the key of a lookup. -/
  lookupColumns : List Nat
  /-- The number under which calls to the right relation are counted. -/
  relation : Nat

/-- The part of a stage that changes as it runs. -/
structure Site where
  build : SharedBuild := {}
  counters : Counters := {}

/-- The state of a probe: what the query shares, the stage's own site, and the rows emitted. -/
structure ProbeState where
  session : Session
  site : Site
  emitted : Array Row

/-- Steps that may fail, with the state kept either way. -/
abbrev Probe := ExceptT JoinError (StateM ProbeState)

namespace Probe

def check : Probe Unit := do
  (← get).session.check

def emit (row : Row) : Probe Unit :=
  modify fun s => { s with emitted := s.emitted.push row }

def holds (predicate : Expr) (row : Row) : Probe Ternary := do
  modify fun s => { s with session := s.session.countEvaluation }
  predicate.holds row

end Probe

namespace JoinStage

/-- For each key column of a store, the left column that some pair equates with it. -/
def coveringKey (d : JoinDescriptor) : List Nat → Option (List Nat)
  | [] => some []
  | column :: rest =>
    match (d.rightKeys.zip d.leftKeys).lookup column with
    | some left => (coveringKey d rest).map (left :: ·)
    | none => none

/-- The access to a relation, with the left columns of its lookups. A store is looked up when
the pairs cover its whole key. -/
def accessTo (d : JoinDescriptor) (mode : JoinMode) : RightRelation → RightAccess × List Nat
  | .rescan _ => (.rescan, [])
  | .bounded _ => (.materialized, [])
  | .partitioned source =>
    match mode, coveringKey d source.keyColumns with
    | .hashProbe, some columns => (.lookup, columns)
    | _, _ => (.materialized, [])

def modeOf (d : JoinDescriptor) : JoinMode := if d.isEqui then .hashProbe else .fullScan

/-- Bind a descriptor to a right relation, which must end and have the columns the descriptor
expects. -/
def create (descriptor : JoinDescriptor) (right : RightRelation) (config : JoinConfig)
    (relation : Nat) : Except JoinError JoinStage :=
  if right.isUnbounded then .error (.unboundedRight right.name)
  else if right.arity ≠ descriptor.rightArity then
    .error (.plan (.relationArity right.name right.arity descriptor.rightArity))
  else
    let mode := modeOf descriptor
    let (access, lookupColumns) := accessTo descriptor mode right
    .ok { descriptor, right, config, mode, access, lookupColumns, relation }

/-- Count something, if counters are wanted. -/
def count (stage : JoinStage) (change : Counters → Counters) : Probe Unit :=
  modify fun s =>
    if stage.config.collectMetrics then
      { s with site := { s.site with counters := change s.site.counters } }
    else s

def keysMatch (stage : JoinStage) (left right : Row) : Bool :=
  (stage.descriptor.leftKeys.zip stage.descriptor.rightKeys).all fun (l, r) =>
    ((left.getD l .null).sqlEquals (right.getD r .null)).isTrue

/-- Emit the joined row if the predicate holds on it, or if there is none. -/
def emitIf (stage : JoinStage) (predicate : Option Expr) (left right : Row) : Probe Unit := do
  match predicate with
  | none => Probe.emit (left ++ right)
  | some p =>
    let t ← Probe.holds p (left ++ right)
    if t.isTrue then Probe.emit (left ++ right)
    else stage.count Counters.residualRejection

def emitIfEqual (stage : JoinStage) (left right : Row) : Probe Unit := do
  if stage.keysMatch left right then
    stage.emitIf stage.descriptor.residual left right

def expectRight (stage : JoinStage) (right : Row) : Except JoinError Unit :=
  (right.expectArity stage.descriptor.rightArity).mapError .shape

def scanRight (stage : JoinStage) : Probe (List Row) := do
  stage.count Counters.scan
  let before := ((← get).session.calls.of stage.relation).scans
  modify fun s =>
    { s with session := { s.session with
        calls := s.session.calls.modify stage.relation fun c =>
          { c with scans := c.scans + 1 } } }
  stage.right.scan before

/-- Scan the right relation and check the rows. -/
def rescan (stage : JoinStage) : Probe (List Row) := do
  let rows ← stage.scanRight
  rows.forM fun row => liftM (stage.expectRight row)
  return rows

def lookUp (stage : JoinStage) (source : KeyedSource) (key : List Value) :
    Probe (List Row) := do
  stage.count Counters.lookup
  let before := ((← get).session.calls.of stage.relation).lookups
  modify fun s =>
    { s with session := { s.session with
        calls := s.session.calls.modify stage.relation fun c =>
          { c with lookups := c.lookups + 1 } } }
  source.lookup before key

/-- The columns a materialized side is indexed by. -/
def indexColumns (stage : JoinStage) : Option (List Nat) :=
  match stage.mode with
  | .hashProbe => some stage.descriptor.rightKeys
  | .fullScan => none

def makeSide [KeyHasher] (stage : JoinStage) : Probe BuildSide := do
  let rows ← stage.scanRight
  let side ← BuildSide.ofScan stage.right stage.indexColumns stage.config rows
  stage.count (Counters.build side.size)
  return side

/-- The materialized side, made now if there is none yet. -/
def side [KeyHasher] (stage : JoinStage) : Probe BuildSide := do
  let (result, build) ← (← get).site.build.getOrBuild stage.makeSide.run
  modify fun s => { s with site := { s.site with build } }
  result

/-- Join by key. A left row with a null in its key has no matches. -/
def probeKeyed [KeyHasher] (stage : JoinStage) (left : Row) : Probe Unit := do
  match stage.descriptor.leftKey left with
  | none => stage.count Counters.nullKeySkip
  | some key =>
    match stage.access, stage.right with
    | .lookup, .partitioned source =>
      let sought := stage.lookupColumns.map fun column => left.getD column .null
      Probe.check
      let rows ← stage.lookUp source sought
      rows.forM fun right => do
        liftM (stage.expectRight right)
        stage.emitIfEqual left right
    -- No stage made by create comes here: only stores are looked up in.
    | .lookup, right => throw (.plan (.noLookups right.name))
    | .rescan, _ =>
      let rows ← stage.rescan
      rows.forM (stage.emitIfEqual left)
    | .materialized, _ =>
      let side ← stage.side
      let rows := (side.candidates (hashKey key)).map side.arena.row
      rows.forM (stage.emitIfEqual left)

/-- Right rows of a full scan between two looks at the token. -/
def checkInterval : Nat := 1024

/-- Look at the token before every right row that ends an interval. -/
def checkAt (position : Nat) : Probe Unit := do
  if position % checkInterval = checkInterval - 1 then Probe.check

def probeAll [KeyHasher] (stage : JoinStage) (left : Row) : Probe Unit := do
  let rows ← match stage.access with
    | .rescan => stage.rescan
    | _ => do
      let side ← stage.side
      pure side.arena.rows
  rows.zipIdx.forM fun (right, position) => do
    checkAt position
    stage.emitIf (some stage.descriptor.condition) left right

/-- Join one left row. -/
def probeRow [KeyHasher] (stage : JoinStage) (left : Row) : Probe Unit := do
  Probe.check
  liftM ((left.expectArity stage.descriptor.leftArity).mapError JoinError.shape)
  stage.count Counters.probe
  let before := (← get).emitted.size
  match stage.mode with
  | .hashProbe => stage.probeKeyed left
  | .fullScan => stage.probeAll left
  let emitted := (← get).emitted.size - before
  if 0 < emitted then stage.count (Counters.emitted emitted)

def dump (stage : JoinStage) : String :=
  "JoinStage \x7b right: " ++ stage.right.dump ++ ", mode: " ++ stage.mode.name
    ++ ", access: " ++ stage.access.name ++ ", descriptor: " ++ stage.descriptor.dump
    ++ " \x7d"

end JoinStage

end JoinEngine
