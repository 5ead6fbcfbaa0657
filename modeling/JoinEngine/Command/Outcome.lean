import JoinEngine.Command.Help
import JoinEngine.Command.Line

/-!
What a command prints and how it ends. A job that fails is reported on the error stream in the
chosen format; arguments that make no sense end with a code of their own.
-/

namespace JoinEngine

structure Outcome where
  code : Nat
  stdout : String
  stderr : String

namespace CommandOptions

def reportFormat (o : CommandOptions) : ReportFormat := o.format.getD .table

def config (o : CommandOptions) : JoinConfig :=
  let config : JoinConfig := {}
  let config := match o.parallelism with
    | some n => config.withParallelism n
    | none => config
  let config := match o.maxBuildRows with
    | some n => config.withMaxBuildRows n
    | none => config
  if o.unlimitedBuild then config.withUnlimitedBuild else config

def queryId (o : CommandOptions) : QueryId :=
  (QueryId.issue (UInt64.ofNat (o.memberId.getD 0)) 1).1

/-- The text of a job file, from its bytes or from the reason why it cannot be read. -/
def jobText (path : String) (file : Except String ByteArray) : Except JobError String :=
  match file with
  | .error reason => .error (.unreadable path reason)
  | .ok bytes =>
    match String.fromUTF8? bytes with
    | some text => .ok text
    | none => .error (.unreadable path "stream did not contain valid UTF-8")

def report [KeyHasher] (o : CommandOptions) (path : String) (file : Except String ByteArray) :
    Except JobError String := do
  let text ← jobText path file
  let job ← JobSpec.parse text
  if o.explain then
    let plan ← job.plan o.queryId
    plan.explain.mapError .join
  else
    let output ← job.run o.config (max (o.partitions.getD 1) 1) o.queryId
    return o.reportFormat.finished output

end CommandOptions

namespace Command

def path? : Command → Option String
  | run path _ => some path
  | _ => none

def outcome [KeyHasher] (c : Command) (file : Except String ByteArray) : Outcome :=
  match c with
  | version => ⟨0, versionText, ""⟩
  | help long => ⟨0, if long then longHelp else shortHelp, ""⟩
  | misuse => ⟨2, "", "error: the arguments cannot be understood\n\n" ++
      "Usage: jetsql [OPTIONS] <JOB>\n\nFor more information, try '--help'.\n"⟩
  | run path options =>
    match options.report path file with
    | .ok text => ⟨0, text ++ "\n", ""⟩
    | .error e => ⟨1, "", options.reportFormat.error e.message ++ "\n"⟩

end Command

end JoinEngine
