import JoinEngine.Exec.Session
import JoinEngine.Relation.Source

/-!
What right relations answer, call by call. A relation that does not change answers every scan
alike, and every lookup of a key alike; one that can be out of reach for a while does so except
in calls that fail. Nothing is assumed here about the rows in an answer.
-/

namespace JoinEngine

/-- A provider could not be reached. -/
def JoinError.IsTransport (e : JoinError) : Prop :=
  ∃ relation retryable text, e = .transport relation retryable text

namespace RightRelation

/-- A call numbered from one count of calls up to another failed with the error. -/
def FailsBetween (right : RightRelation) (before after : Calls) (e : JoinError) : Prop :=
  (∃ n, before.scans ≤ n ∧ n < after.scans ∧ right.scan n = .error e) ∨
    ∃ source n key, right = .partitioned source ∧ before.lookups ≤ n ∧ n < after.lookups ∧
      source.lookup n key = .error e

def Fails (right : RightRelation) (e : JoinError) : Prop :=
  ∃ before after, right.FailsBetween before after e

theorem fails_of_scan {right : RightRelation} {n : Nat} {e : JoinError}
    (h : right.scan n = .error e) : right.Fails e :=
  ⟨⟨n, 0⟩, ⟨n + 1, 0⟩, Or.inl ⟨n, Nat.le_refl n, Nat.lt_succ_self n, h⟩⟩

theorem fails_of_lookup {right : RightRelation} {source : KeyedSource} {n : Nat}
    {key : List Value} {e : JoinError} (hright : right = .partitioned source)
    (h : source.lookup n key = .error e) : right.Fails e :=
  ⟨⟨0, n⟩, ⟨0, n + 1⟩, Or.inr ⟨source, n, key, hright, Nat.le_refl n, Nat.lt_succ_self n, h⟩⟩

/-- Every scan has one answer, and so has every lookup of a key, except for calls that fail with
a fault. -/
structure Answers (right : RightRelation) (scanned : Except JoinError (List Row))
    (found : List Value → Except JoinError (List Row)) (fault : JoinError → Prop) : Prop where
  scan : ∀ n, right.scan n = scanned ∨ ∃ e, fault e ∧ right.scan n = .error e
  lookup : ∀ source, right = .partitioned source → ∀ n key,
    source.lookup n key = found key ∨ ∃ e, fault e ∧ source.lookup n key = .error e

/-- The relation does not change, and gives its answers without fail. -/
def Constant (right : RightRelation) : Prop :=
  ∃ scanned found, right.Answers scanned found fun _ => False

/-- The relation with fixed answers in place of its own. -/
def answering (right : RightRelation) (rows : List Row)
    (found : List Value → Except JoinError (List Row)) : RightRelation :=
  match right with
  | .bounded s => .bounded { s with scan := fun _ => .ok rows }
  | .partitioned s =>
    .partitioned { s with scan := fun _ => .ok rows, lookup := fun _ key => found key }
  | .rescan s => .rescan { s with scan := fun _ => .ok rows }

theorem answering_answers (right : RightRelation) (rows : List Row)
    (found : List Value → Except JoinError (List Row)) :
    (right.answering rows found).Answers (.ok rows) found fun _ => False := by
  cases right with
  | bounded s | rescan s =>
      exact ⟨fun _ => Or.inl rfl, fun source hsource => nomatch hsource⟩
  | partitioned s =>
      refine ⟨fun _ => Or.inl rfl, fun source hsource n key => Or.inl ?_⟩
      obtain rfl := RightRelation.partitioned.inj hsource
      rfl

end RightRelation

end JoinEngine
