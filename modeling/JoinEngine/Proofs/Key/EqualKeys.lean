import JoinEngine.Proofs.Key.Probe
import JoinEngine.Proofs.Relation.FlatStore
import Mathlib.Data.List.Forall2

/-!
Keys that are equal to SQL meet wherever keys are kept. Their components may be of different
numeric kinds, or zeros of different signs; neither their atoms nor what they feed to a hasher
tells them apart. So a store keeps them in one entry of one partition and an index in one chain,
and what was put in under the one is found under the other.
-/

namespace JoinEngine

/-- The keys are as long as each other, and equal component by component. -/
def KeysEqual (key other : List Value) : Prop :=
  List.Forall₂ (fun a b => a.sqlEquals b = .true) key other

namespace KeysEqual

variable {key other : List Value}

theorem all_zip (h : KeysEqual key other) :
    (key.zip other).all (fun (a, b) => (a.sqlEquals b).isTrue) = true := by
  induction h with
  | nil => rfl
  | cons hfirst _ ih =>
      rw [List.zip_cons_cons, List.all_cons, ih, Bool.and_true, Ternary.isTrue_iff]
      exact hfirst

theorem atoms_eq (h : KeysEqual key other) : keyAtoms key = keyAtoms other :=
  (keys_of_all_equal h.length_eq h.all_zip).1

theorem feed_eq (h : KeysEqual key other) : keyFeed key = keyFeed other := by
  rw [keyFeed_eq_atoms, keyFeed_eq_atoms, h.atoms_eq]

theorem hash_eq [KeyHasher] (h : KeysEqual key other) : hashKey key = hashKey other :=
  congrArg KeyHasher.hash h.feed_eq

/-- Both components of each place have the same atom, as neither of them is null. -/
theorem exists_atoms (h : KeysEqual key other) :
    List.Forall₂ (fun a b => ∃ atom, KeyAtom.ofValue a = some atom ∧
      KeyAtom.ofValue b = some atom) key other := by
  refine h.imp fun a b hequal => ?_
  have hsame := KeyAtom.ofValue_eq_of_sqlEquals hequal
  obtain ⟨hnull, -, -⟩ := (Value.sqlEquals_eq_true_iff a b).mp hequal
  obtain ⟨atom, hatom⟩ : ∃ atom, KeyAtom.ofValue a = some atom := by
    cases a with
    | null => exact absurd hnull (by decide)
    | _ => exact ⟨_, rfl⟩
  exact ⟨atom, hatom, hsame ▸ hatom⟩

theorem exists_partition [KeyHasher] (h : KeysEqual key other) (m : KeyedMap) :
    ∃ home, m.partitionOf key = some home ∧ m.partitionOf other = some home := by
  obtain ⟨-, hkey, hother⟩ := keys_of_all_equal h.length_eq h.all_zip
  refine ⟨m.partitionOfHash (hashKey key), ?_, ?_⟩
  · unfold KeyedMap.partitionOf
    rw [hkey]
    rfl
  · unfold KeyedMap.partitionOf
    rw [hother, h.hash_eq]
    rfl

/-- A lookup of the one key finds the rows stored under the other. -/
theorem mem_lookup [KeyHasher] {m : KeyedMap} {rows : List Row} (hstores : m.Stores rows)
    {row : Row} (member : row ∈ rows) (h : KeysEqual (m.keyOf row) other) :
    ∃ found, m.lookup other = .ok found ∧ row ∈ found := by
  have hwidth : other.length = m.keyColumns.length := by
    rw [← h.length_eq]
    exact List.length_map _
  refine ⟨_, (hstores.lookup other).trans (if_neg (not_not_intro hwidth)), ?_⟩
  rw [List.mem_filter, KeyedMap.flat_matchesKey]
  exact ⟨member, h.all_zip⟩

/-- A probe for the hash of the one key passes the positions entered under that of the other. -/
theorem mem_probe [KeyHasher] (h : KeysEqual key other) {t : HashIndex}
    {log : List (UInt64 × Nat)} (hrecords : t.Records log) {position : Nat}
    (member : (hashKey key, position) ∈ log) (hword : position < UInt32.size) :
    position ∈ t.probe (hashKey other) := by
  rw [hrecords.probe, List.mem_map]
  refine ⟨(hashKey key, position), ?_, UInt32.toNat_ofNat_of_lt' hword⟩
  rw [List.mem_filter]
  exact ⟨member, beq_iff_eq.mpr h.hash_eq⟩

end KeysEqual

/-- Hashes and atoms respect SQL equality, whatever the hash function. Keys that are equal
component by component feed it the same pieces, so they have one hash, and they have the same
atom in each place; so a store keeps them in the same partition, in the entry of the same atoms,
and an index in the same bucket. A row stored under one of them is found by looking up the other,
and a position entered under one by probing for the other. -/
theorem equal_keys_meet [KeyHasher] {key other : List Value} (h : KeysEqual key other) :
    keyFeed key = keyFeed other ∧ hashKey key = hashKey other ∧
      List.Forall₂ (fun a b => ∃ atom, KeyAtom.ofValue a = some atom ∧
        KeyAtom.ofValue b = some atom) key other ∧
      keyAtoms key = keyAtoms other ∧
      (∀ m : KeyedMap, ∃ home, m.partitionOf key = some home ∧
        m.partitionOf other = some home) ∧
      (∀ (m : KeyedMap) (rows : List Row) (row : Row), m.Stores rows → row ∈ rows →
        m.keyOf row = key → ∃ found, m.lookup other = .ok found ∧ row ∈ found) ∧
      (∀ t : HashIndex, t.bucket (hashKey key) = t.bucket (hashKey other)) ∧
      ∀ (t : HashIndex) (log : List (UInt64 × Nat)) (position : Nat), t.Records log →
        (hashKey key, position) ∈ log → position < UInt32.size →
        position ∈ t.probe (hashKey other) := by
  refine ⟨h.feed_eq, h.hash_eq, h.exists_atoms, h.atoms_eq, h.exists_partition, ?_, ?_, ?_⟩
  · rintro m rows row hstores member rfl
    exact h.mem_lookup hstores member
  · intro t
    rw [h.hash_eq]
  · intro t log position hrecords member hword
    exact h.mem_probe hrecords member hword

/-- An integer that no double holds is equal to the double it is rounded to, and a negative zero
to the integer. The row with the one key is looked up, and its position probed for, by the
other. -/
theorem equal_keys_meet_mixed :
    let key : List Value :=
      [.int64 9007199254740993, .float64 (Double.zero true), .float32 ⟨0x40000000⟩, .string "é"]
    let other : List Value :=
      [.float64 (Double.ofInt 9007199254740992), .int32 0, .int64 2, .string "é"]
    let row : Row := key ++ [.null]
    let start : KeyedMap := ⟨"m", 5, [0, 1, 2, 3], List.replicate 7 []⟩
    KeysEqual key other ∧ keyFeed key = keyFeed other ∧ hashKey key = hashKey other ∧
      (∃ m found, start.insert row = .ok m ∧ m.lookup other = .ok found ∧ row ∈ found) ∧
      4 ∈ ((HashIndex.withCapacity 0).insert (hashKey key) 4).probe (hashKey other) := by
  intro key other row start
  have hequal : KeysEqual key other :=
    .cons (by decide +kernel) (.cons (by decide +kernel)
      (.cons (by decide +kernel) (.cons (by decide +kernel) .nil)))
  obtain ⟨hfeed, hhash, -, -, -, hlookup, -, hprobe⟩ := equal_keys_meet hequal
  refine ⟨hequal, hfeed, hhash, ?_, ?_⟩
  · have hempty : KeyedMap.empty "m" 5 [0, 1, 2, 3] 7 = .ok start := rfl
    have hinsert : start.insert row = .ok (start.written row) := by
      rw [KeyedMap.insert_eq]
      rfl
    have hstores : (start.written row).Stores _ := (KeyedMap.stores_empty hempty).written rfl
    obtain ⟨found, hfound, member⟩ := hlookup _ _ row hstores List.mem_cons_self rfl
    exact ⟨_, found, hinsert, hfound, member⟩
  · have hrecords := (HashIndex.records_withCapacity 0).insert (by decide) (hashKey key) 4
    exact hprobe _ _ 4 hrecords List.mem_cons_self (by decide)

end JoinEngine
