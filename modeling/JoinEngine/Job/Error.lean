import JoinEngine.Error
import JoinEngine.Json.Writer

/-!
What can go wrong with a job.
-/

namespace JoinEngine

inductive JobFault where
  | unknownRelation (name : String)
  /-- A join that has both or neither of its two forms of condition. -/
  | joinForm (relation : String)
  | unsupportedValue (value : Json)

inductive JobError where
  | unreadable (path reason : String)
  | malformed
  | job (fault : JobFault)
  | join (error : JoinError)
  | shape (error : ShapeError)

def JobFault.message : JobFault → String
  | unknownRelation name => s!"join references unknown relation '{name}'"
  | joinForm relation => s!"join with '{relation}' needs exactly one of 'on' or 'using'"
  | unsupportedValue value => s!"unsupported row value: {value.compact}"

def JobError.message : JobError → String
  | unreadable path reason => s!"failed to read job file {path}: {reason}"
  | malformed => "invalid job file: the text does not describe a job"
  | job fault => s!"invalid job: {fault.message}"
  | join error => error.message
  | shape error => error.message

end JoinEngine
