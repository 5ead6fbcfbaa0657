/-!
Counters of one join site, 64 bits wide.
-/

namespace JoinEngine

structure Counters where
  /-- Finished materializations and the rows of them all. -/
  builds : UInt64 := 0
  buildRows : UInt64 := 0
  /-- Left rows processed. -/
  probes : UInt64 := 0
  /-- Lookups and scans asked of the right relation. -/
  lookups : UInt64 := 0
  scans : UInt64 := 0
  rowsEmitted : UInt64 := 0
  /-- Left rows passed over because of a null in their key. -/
  nullKeySkips : UInt64 := 0
  /-- Pairs of rows refused by the residual or the whole condition. -/
  residualRejections : UInt64 := 0
  deriving DecidableEq

namespace Counters

def build (rows : Nat) (c : Counters) : Counters :=
  { c with builds := c.builds + 1, buildRows := c.buildRows + UInt64.ofNat rows }

def probe (c : Counters) : Counters := { c with probes := c.probes + 1 }

def lookup (c : Counters) : Counters := { c with lookups := c.lookups + 1 }

def scan (c : Counters) : Counters := { c with scans := c.scans + 1 }

def emitted (rows : Nat) (c : Counters) : Counters :=
  { c with rowsEmitted := c.rowsEmitted + UInt64.ofNat rows }

def nullKeySkip (c : Counters) : Counters := { c with nullKeySkips := c.nullKeySkips + 1 }

def residualRejection (c : Counters) : Counters :=
  { c with residualRejections := c.residualRejections + 1 }

end Counters

end JoinEngine
