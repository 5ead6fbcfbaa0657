import JoinEngine.Exec.Chain
import JoinEngine.Plan.Assembly
import JoinEngine.Relation.Registry

/-!
From a plan to a chain of joins over the relations at hand.
-/

namespace JoinEngine

namespace JoinSite

/-- The stage of a join, over the relation registered under the name of its table. -/
def toStage (site : JoinSite) (registry : Registry) (config : JoinConfig) :
    Except JoinError JoinStage := do
  let name ← site.tableName
  let relation ← registry.resolve name site.kind
  JoinStage.create site.descriptor relation config (registry.position name)

end JoinSite

namespace Plan

def toChain (p : Plan) (registry : Registry) (config : JoinConfig) :
    Except JoinError JoinChain := do
  match p.source? with
  | none => throw (.plan .noSource)
  | some source =>
    let stages ← p.joinSites.mapM fun site => site.toStage registry config
    let chain ← JoinChain.create source.arity stages
    let chain := chain.withParallelism config.parallelism
    match p.projection? with
    | some projection => chain.withProjection projection
    | none => return chain

end Plan

end JoinEngine
