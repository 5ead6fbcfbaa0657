import JoinEngine.Error

/-!
What the parts of a running query share: the cancellation token, the number of predicates
evaluated, and the calls made to each right relation. A token may be set to become cancelled at
a certain evaluation, which stands for a cancellation that arrives while rows are compared.
-/

namespace JoinEngine

/-- Calls made to one right relation. -/
structure Calls where
  scans : Nat := 0
  lookups : Nat := 0
  deriving DecidableEq

/-- Calls by the number of the relation; those not listed have had none. -/
abbrev CallLog := List Calls

namespace CallLog

def of (log : CallLog) (relation : Nat) : Calls := log.getD relation {}

def modify (log : CallLog) (relation : Nat) (change : Calls → Calls) : CallLog :=
  match log, relation with
  | [], 0 => [change {}]
  | [], n + 1 => {} :: CallLog.modify [] n change
  | calls :: rest, 0 => change calls :: rest
  | calls :: rest, n + 1 => calls :: CallLog.modify rest n change

end CallLog

structure Session where
  cancelled : Bool := false
  /-- Predicates evaluated so far. -/
  evaluations : Nat := 0
  /-- The evaluation, counted from one, that finds the token newly cancelled. -/
  cancelAt : Option Nat := none
  calls : CallLog := []
  deriving DecidableEq

namespace Session

def cancel (s : Session) : Session := { s with cancelled := true }

def renewToken (s : Session) : Session := { s with cancelled := false }

def check (s : Session) : Except JoinError Unit :=
  if s.cancelled then .error .cancelled else .ok ()

/-- Count an evaluation, before which the token may become cancelled. -/
def countEvaluation (s : Session) : Session :=
  { s with
    evaluations := s.evaluations + 1
    cancelled := s.cancelled || s.cancelAt == some (s.evaluations + 1) }

end Session

end JoinEngine
