/-!
What can go wrong, by cause. Each cause has one wording, given by `message`; `other` holds a
cause that someone else has put into words.
-/

namespace JoinEngine

inductive MetadataFault where
  | unnamed (position : Nat)
  | duplicate (name : String)
  | other (text : String)
  deriving DecidableEq

inductive ShapeError where
  | arity (expected actual : Nat)
  | column (index arity : Nat)
  | metadata (fault : MetadataFault)
  deriving DecidableEq

inductive ConditionFault where
  | outsideJoinedRow (column width : Nat)
  | emptyUsing
  | usingOutside (left right leftArity rightArity : Nat)
  | lookupWidth (relation : String) (expected actual : Nat)
  | other (text : String)
  deriving DecidableEq

/-- A plan that cannot be assembled, or not be run over the relations at hand. -/
inductive PlanFault where
  | sourceFirst
  | afterSink
  | joinAfterProjection
  | secondProjection
  | sinkMissing
  | sinkUnexpected
  | joinLeftArity (relation : String) (classified received : Nat)
  | joinRightArity (relation : String) (classified actual : Nat)
  | metadataWidth (described produced : Nat)
  | projectionColumn (column width : Nat)
  | siteWidth (position expected received : Nat)
  | noSource
  | unknownRelation (name : String)
  | relationKind (name registered expected : String)
  | relationArity (name : String) (actual expected : Nat)
  | noKeyColumn (name : String)
  | indexCapacity (rows limit : Nat)
  | noLookups (relation : String)
  | other (text : String)
  deriving DecidableEq

inductive EvalFault where
  | noColumn (column arity : Nat)
  | notBoolean (type : String)
  | notNumeric (operator left right : String)
  | integerOverflow
  | divisionByZeroOrOverflow
  | divisionByZero
  | other (text : String)
  deriving DecidableEq

inductive JoinError where
  | subqueryOnRight
  | unboundedRight (relation : String)
  | condition (fault : ConditionFault)
  | plan (fault : PlanFault)
  | evaluation (fault : EvalFault)
  | typeMismatch (left right : String)
  | transport (relation : String) (retryable : Bool) (text : String)
  | nullKey (relation : String)
  | cancelled
  | buildLimit (relation : String) (limit : Nat)
  | unsupported (feature : String)
  | shape (error : ShapeError)
  deriving DecidableEq

def MetadataFault.message : MetadataFault → String
  | unnamed i => s!"column {i} has no name"
  | duplicate name => s!"duplicate column name '{name}'"
  | other text => text

def ShapeError.message : ShapeError → String
  | arity expected actual => s!"arity mismatch: expected {expected} columns, got {actual}"
  | column index width => s!"column index {index} out of range for row of arity {width}"
  | metadata fault => s!"invalid metadata: {fault.message}"

def ConditionFault.message : ConditionFault → String
  | outsideJoinedRow column width =>
    s!"column ${column} is outside the joined row of {width} columns"
  | emptyUsing => "USING requires at least one column"
  | usingOutside left right leftArity rightArity =>
    s!"USING column pair ({left}, {right}) is outside rows of arity {leftArity} and {rightArity}"
  | lookupWidth relation expected actual =>
    s!"lookup on '{relation}' expects {expected} key values, got {actual}"
  | other text => text

def PlanFault.message : PlanFault → String
  | sourceFirst => "a plan must start with exactly one source"
  | afterSink => "no stage may follow the sink"
  | joinAfterProjection => "joins must precede the projection"
  | secondProjection => "a plan may have at most one projection"
  | sinkMissing => "an insert plan must end with a sink"
  | sinkUnexpected => "only insert plans may have a sink"
  | joinLeftArity relation classified received =>
    s!"join with '{relation}' was classified for a left row of {classified} columns " ++
      s!"but receives {received}"
  | joinRightArity relation classified actual =>
    s!"join with '{relation}' was classified for {classified} right columns " ++
      s!"but the table has {actual}"
  | metadataWidth described produced =>
    s!"row metadata describes {described} columns but the plan produces {produced}"
  | projectionColumn column width =>
    s!"projection references ${column} but the row has {width} columns"
  | siteWidth position expected received =>
    s!"join site {position} expects a left row of {expected} columns but receives {received}"
  | noSource => "plan has no source"
  | unknownRelation name => s!"unknown relation '{name}'"
  | relationKind name registered expected =>
    s!"relation '{name}' is registered as {registered} but the plan expects {expected}"
  | relationArity name actual expected =>
    s!"relation '{name}' has {actual} columns but the join expects {expected}"
  | noKeyColumn name => s!"keyed relation '{name}' needs at least one key column"
  | indexCapacity rows limit =>
    s!"build side of {rows} rows exceeds the join table capacity of {limit} rows"
  | noLookups relation => s!"relation '{relation}' does not support lookups"
  | other text => text

def EvalFault.message : EvalFault → String
  | noColumn column arity => s!"column ${column} out of range for row of arity {arity}"
  | notBoolean type => s!"expected BOOLEAN predicate, got {type}"
  | notNumeric operator left right => s!"cannot apply '{operator}' to {left} and {right}"
  | integerOverflow => "integer overflow"
  | divisionByZeroOrOverflow => "division by zero or overflow"
  | divisionByZero => "division by zero"
  | other text => text

namespace JoinError

def message : JoinError → String
  | subqueryOnRight => "Subquery on the right side of a join not supported"
  | unboundedRight relation =>
    s!"unbounded relation '{relation}' cannot be used on the right side of a join"
  | condition fault => s!"invalid join condition: {fault.message}"
  | plan fault => s!"invalid plan: {fault.message}"
  | evaluation fault => s!"evaluation error: {fault.message}"
  | typeMismatch left right => s!"cannot compare {left} with {right}"
  | transport relation _ text => s!"access to relation '{relation}' failed: {text}"
  | nullKey relation => s!"relation '{relation}' cannot store a row with a null key"
  | cancelled => "query cancelled"
  | buildLimit relation limit =>
    s!"build side of '{relation}' exceeded the limit of {limit} rows"
  | unsupported feature => s!"{feature} is not supported"
  | shape error => s!"protocol error: {error.message}"

/-- Whether the caller may try the failed stage again. -/
def isRetryable : JoinError → Bool
  | transport _ retryable _ => retryable
  | _ => false

end JoinError

end JoinEngine
