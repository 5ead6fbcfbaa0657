/-!
A chained hash index over row positions. Every bucket heads a chain of entries, the newest
first; an entry points only to older entries, so a chain ends. Nothing assumes that a key is
unique, and a probe gives the positions entered under one hash, newest first. Links between
entries are 32-bit words like the positions, and the greatest word ends a chain. Memory for the
buckets and entries is taken to be there.
-/

namespace JoinEngine

/-- The most rows one index can hold; positions and links are kept in 32 bits, and one word is
taken for the end of a chain. -/
def maxIndexedRows : Nat := UInt32.size - 2

/-- One indexed row: its full hash, its position, and the link to the next older entry of its
bucket. -/
structure IndexEntry where
  hash : UInt64
  row : UInt32
  next : UInt32

structure HashIndex where
  heads : Array UInt32
  entries : Array IndexEntry
  mask : UInt64

namespace HashIndex

def endOfChain : UInt32 := UInt32.ofNat (UInt32.size - 1)

def minBuckets : Nat := 16

/-- The least power of two that is not below a number. -/
def leastPower (n : Nat) : Nat := if n ≤ 1 then 1 else 1 <<< ((n - 1).log2 + 1)

/-- The number of buckets for about `rows` entries, three entries to four buckets: a power of
two. The product stops at the largest 64-bit word. -/
def bucketsFor (rows : Nat) : Nat :=
  leastPower (max (min (rows * 4) (UInt64.size - 1) / 3) minBuckets)

def withCapacity (rows : Nat) : HashIndex where
  heads := Array.replicate (bucketsFor rows) endOfChain
  entries := #[]
  mask := UInt64.ofNat (bucketsFor rows - 1)

def bucket (t : HashIndex) (hash : UInt64) : Nat := (hash &&& t.mask).toNat

/-- The link to the newest entry of a bucket. -/
def head (t : HashIndex) (bucket : Nat) : UInt32 := t.heads.getD bucket endOfChain

def insert (t : HashIndex) (hash : UInt64) (row : Nat) : HashIndex :=
  let bucket := t.bucket hash
  let older := t.head bucket
  let newest := UInt32.ofNat t.entries.size
  { t with
    heads := t.heads.setIfInBounds bucket newest
    entries := t.entries.push ⟨hash, UInt32.ofNat row, older⟩ }

/-- The positions entered under a hash in the chain from a link on. -/
def chain (entries : Array IndexEntry) (hash : UInt64) : Nat → UInt32 → List Nat
  | 0, _ => []
  | fuel + 1, link =>
    if link = endOfChain then []
    else
      match entries[link.toNat]? with
      | none => []
      | some e =>
        if e.hash = hash then e.row.toNat :: chain entries hash fuel e.next
        else chain entries hash fuel e.next

/-- The positions entered under a hash, newest first. -/
def probe (t : HashIndex) (hash : UInt64) : List Nat :=
  chain t.entries hash t.entries.size (t.head (t.bucket hash))

def size (t : HashIndex) : Nat := t.entries.size

def bucketCount (t : HashIndex) : Nat := t.heads.size

end HashIndex

end JoinEngine
