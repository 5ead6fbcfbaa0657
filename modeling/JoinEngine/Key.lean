import JoinEngine.Value

/-!
Keys for hashing. A value has an atom, by which stores compare keys, and a feed, the pieces it
hands to a hasher. Both see a number as the double nearest to it, with one zero and one pattern
for what is not a number; the feed puts a tag for the kind of the value in front.
-/

namespace JoinEngine

inductive KeyAtom where
  | bool (b : Bool)
  | number (bits : UInt64)
  | text (s : String)
  | bytes (b : List UInt8)
  | timestamp (t : Int64)
  deriving DecidableEq

namespace KeyAtom

/-- The pattern that stands for a number: one for both zeros, one for everything that is not a
number. -/
def numberBits (x : Double) : UInt64 :=
  if x.isZero then (Double.zero false).bits
  else if x.isNaN then Double.nan.bits
  else x.bits

def ofValue (v : Value) : Option KeyAtom :=
  match v with
  | .null => none
  | .bool b => some (.bool b)
  | .string s => some (.text s)
  | .bytes b => some (.bytes b)
  | .timestamp t => some (.timestamp t)
  | v => v.double?.map fun x => .number (numberBits x)

end KeyAtom

def keyAtoms (key : List Value) : List (Option KeyAtom) := key.map KeyAtom.ofValue

/-- What a hasher takes in at a time. -/
inductive HashPiece where
  | byte (b : UInt8)
  | word (w : UInt64)
  | signed (t : Int64)
  | length (n : Nat)
  | text (s : String)
  | bytes (b : List UInt8)
  deriving DecidableEq

namespace Value

/-- The pieces that stand for a value: the tag of its kind, then its contents. -/
def feed (v : Value) : List HashPiece :=
  match v with
  | .null => [.byte 0]
  | .bool b => [.byte 1, .byte (if b then 1 else 0)]
  | .string s => [.byte 3, .text s]
  | .bytes b => [.byte 4, .length b.length, .bytes b]
  | .timestamp t => [.byte 5, .signed t]
  | v => [.byte 2, .word (KeyAtom.numberBits (v.double?.getD Double.nan))]

end Value

def keyFeed (key : List Value) : List HashPiece := key.flatMap Value.feed

/-- A hash function on what is fed to it. Joins are correct with any; a good one makes them
fast. -/
class KeyHasher where
  hash : List HashPiece → UInt64

def hashKey [KeyHasher] (key : List Value) : UInt64 := KeyHasher.hash (keyFeed key)

end JoinEngine
