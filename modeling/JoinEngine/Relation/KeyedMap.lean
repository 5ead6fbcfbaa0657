import JoinEngine.Key
import JoinEngine.Row
import JoinEngine.Value.Compare

/-!
A store of rows by key, spread over partitions by the hash of the key. A row is kept in the
entry of its key's atoms; keys that differ but share their atoms share an entry and are told
apart by SQL equality. Writing a row replaces the rows of an equal key. Memory for the
partitions and rows is taken to be there.
-/

namespace JoinEngine

/-- The rows of one partition, by the atoms of their keys. -/
abbrev KeyedEntries := List (List (Option KeyAtom) × List Row)

namespace KeyedEntries

def rows (entries : KeyedEntries) (atoms : List (Option KeyAtom)) : List Row :=
  match entries with
  | [] => []
  | (other, rows) :: rest => if other = atoms then rows else KeyedEntries.rows rest atoms

/-- Change the rows in the entry of some atoms, which is made if it is missing. -/
def modify (entries : KeyedEntries) (atoms : List (Option KeyAtom))
    (change : List Row → List Row) : KeyedEntries :=
  match entries with
  | [] => [(atoms, change [])]
  | (other, rows) :: rest =>
    if other = atoms then (other, change rows) :: rest
    else (other, rows) :: KeyedEntries.modify rest atoms change

def toList (entries : KeyedEntries) : List Row := entries.flatMap (·.2)

end KeyedEntries

structure KeyedMap where
  name : String
  arity : Nat
  /-- The columns that make up the key, in key order. -/
  keyColumns : List Nat
  partitions : List KeyedEntries

namespace KeyedMap

/-- An empty store. It has at least one partition, and needs a key of columns that exist. -/
def empty (name : String) (arity : Nat) (keyColumns : List Nat) (partitionCount : Nat) :
    Except JoinError KeyedMap :=
  if keyColumns.isEmpty then .error (.plan (.noKeyColumn name))
  else
    match keyColumns.find? (arity ≤ ·) with
    | some column => .error (.shape (.column column arity))
    | none => .ok ⟨name, arity, keyColumns, List.replicate (max partitionCount 1) []⟩

def partitionCount (m : KeyedMap) : Nat := m.partitions.length

/-- The key of a row, null components included. -/
def keyOf (m : KeyedMap) (row : Row) : List Value :=
  m.keyColumns.map fun column => row.getD column .null

/-- Key components that count as the same when a row is written: equal, or both null. -/
def sameComponent (a b : Value) : Bool :=
  if a.isNull && b.isNull then true else (a.sqlEquals b).isTrue

/-- Whether two rows have the same key for writing. -/
def sameKey (m : KeyedMap) (a b : Row) : Bool :=
  ((m.keyOf a).zip (m.keyOf b)).all fun (x, y) => sameComponent x y

def matchesKey (m : KeyedMap) (row : Row) (key : List Value) : Bool :=
  ((m.keyOf row).zip key).all fun (x, y) => (x.sqlEquals y).isTrue

def partitionOfHash (m : KeyedMap) (hash : UInt64) : Nat := hash.toNat % m.partitionCount

/-- The partition of a key, which must not have a null component. -/
def partitionOf [KeyHasher] (m : KeyedMap) (key : List Value) : Option Nat :=
  if key.any Value.isNull then none else some (m.partitionOfHash (hashKey key))

/-- Write a row in place of the rows with the same key. A key may have null components, but
not only such. -/
def insert [KeyHasher] (m : KeyedMap) (row : Row) : Except JoinError KeyedMap := do
  (row.expectArity m.arity).mapError .shape
  let key := m.keyOf row
  if key.all Value.isNull then throw (.nullKey m.name)
  let write (rows : List Row) := rows.filter (fun old => !m.sameKey old row) ++ [row]
  let home := m.partitionOfHash (hashKey key)
  return { m with
    partitions := m.partitions.modify home (·.modify (keyAtoms key) write) }

/-- Write rows one after the other, up to the first that cannot be stored. The store is
returned as that leaves it. -/
def insertAll [KeyHasher] (m : KeyedMap) : List Row → Except JoinError Unit × KeyedMap
  | [] => (.ok (), m)
  | row :: rest =>
    match m.insert row with
    | .ok m => m.insertAll rest
    | .error e => (.error e, m)

def rows (m : KeyedMap) : List Row := m.partitions.flatMap KeyedEntries.toList

def size (m : KeyedMap) : Nat := m.rows.length

/-- The rows whose key equals a sought key; none if that has a null component. -/
def lookup [KeyHasher] (m : KeyedMap) (key : List Value) : Except JoinError (List Row) :=
  if key.length ≠ m.keyColumns.length then
    .error (.condition (.lookupWidth m.name m.keyColumns.length key.length))
  else
    match m.partitionOf key with
    | none => .ok []
    | some home =>
      let entry := ((m.partitions[home]?).getD []).rows (keyAtoms key)
      .ok (entry.filter fun row => m.matchesKey row key)

def dump (m : KeyedMap) : String :=
  "PartitionedMap \x7b name: " ++ Text.quote m.name ++ ", arity: " ++ toString m.arity
    ++ ", key_columns: ["
    ++ String.intercalate ", " (m.keyColumns.map fun column => toString column)
    ++ "], partitions: " ++ toString m.partitionCount ++ " \x7d"

end KeyedMap

end JoinEngine
