import JoinEngine.Text.Quoted

/-!
Identifiers of compiled queries: the member that compiled the query, and a number of its own
within that member. They are ordered by member first.
-/

namespace JoinEngine

structure QueryId where
  member : UInt64
  serial : UInt64
  deriving DecidableEq

namespace QueryId

def display (id : QueryId) : String :=
  Text.hex 16 id.member.toNat ++ "-" ++ Text.hex 16 id.serial.toNat

def compare (a b : QueryId) : Ordering :=
  (Ord.compare a.member b.member).then (Ord.compare a.serial b.serial)

/-- Issue an id for a member from the next unused serial number. -/
def issue (member next : UInt64) : QueryId × UInt64 := (⟨member, next⟩, next + 1)

end QueryId

end JoinEngine
