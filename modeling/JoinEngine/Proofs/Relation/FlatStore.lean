import JoinEngine.Key.Fnv
import JoinEngine.Proofs.Relation.Entries
import JoinEngine.Proofs.Value.Equality

/-!
A keyed store behaves like a flat list of rows, however many partitions it has and whatever the
hash function does. Three levels decide where a row lives: the partition by the hash of its
key's atoms, the entry by the atoms, and the place in the entry by SQL equality with null equal
to null. They agree because equal components have equal atoms, so all rows that a write must
replace or a lookup must find are in one entry. `Stores` is the invariant that ties the two
views together; each write keeps it.
-/

namespace JoinEngine

/-- Key components that count as the same when a row is written have the same atom. -/
theorem ofValue_eq_of_sameComponent {a b : Value} (h : KeyedMap.sameComponent a b = true) :
    KeyAtom.ofValue a = KeyAtom.ofValue b := by
  unfold KeyedMap.sameComponent at h
  split at h
  next hnull =>
    cases a <;> cases b <;> simp_all [Value.isNull]
  next =>
    apply KeyAtom.ofValue_eq_of_sqlEquals
    cases hequal : a.sqlEquals b <;> simp_all [Ternary.isTrue]

/-- Where only the `k`-th of some lists has an element, that list has all of its occurrences. -/
theorem count_flatMap_of_single {α β : Type} [BEq β] [LawfulBEq β] {b : β} {f : α → List β}
    {items : List α} {k c : Nat} (hk : k < items.length)
    (h : ∀ i x, items[i]? = some x → (f x).count b = if i = k then c else 0) :
    (items.flatMap f).count b = c := by
  induction items generalizing k with
  | nil => cases hk
  | cons x rest ih =>
      have hhead := h 0 x rfl
      rw [List.flatMap_cons, List.count_append, hhead]
      cases k with
      | zero =>
          have hrest : (rest.flatMap f).count b = 0 := by
            apply List.count_eq_zero.mpr
            intro member
            obtain ⟨y, hy, hb⟩ := List.mem_flatMap.mp member
            obtain ⟨i, hi⟩ := List.mem_iff_getElem?.mp hy
            have hnone : (f y).count b = 0 := by simpa using h (i + 1) y hi
            exact List.count_eq_zero.mp hnone hb
          rw [hrest]
          rfl
      | succ k =>
          have hlater : k < rest.length := by simpa using hk
          have hrest := ih hlater fun i y hy => by
            simpa using h (i + 1) y hy
          rw [hrest]
          exact Nat.zero_add c

/-- Write rows one after the other, keeping the answer to each. A row that is refused leaves
everything as it was. -/
def attempts {σ : Type} (insert : σ → Row → Except JoinError σ) (s : σ) :
    List Row → List (Except JoinError Unit) × σ
  | [] => ([], s)
  | row :: rest =>
    match insert s row with
    | .ok next => ((attempts insert next rest).1.cons (.ok ()), (attempts insert next rest).2)
    | .error e => ((attempts insert s rest).1.cons (.error e), (attempts insert s rest).2)

/-- A keyed store without partitions: its rows in the order of their last writing. -/
structure FlatStore where
  name : String
  arity : Nat
  keyColumns : List Nat
  rows : List Row

namespace FlatStore

def sameKey (s : FlatStore) (a b : Row) : Bool :=
  s.keyColumns.all fun column =>
    KeyedMap.sameComponent (a.getD column .null) (b.getD column .null)

def matchesKey (s : FlatStore) (key : List Value) (row : Row) : Bool :=
  (s.keyColumns.zip key).all fun (column, v) =>
    ((row.getD column .null).sqlEquals v).isTrue

def insert (s : FlatStore) (row : Row) : Except JoinError FlatStore :=
  if row.length ≠ s.arity then .error (.shape (.arity s.arity row.length))
  else if s.keyColumns.all fun column => (row.getD column .null).isNull then
    .error (.nullKey s.name)
  else .ok { s with rows := s.rows.filter (fun old => !s.sameKey old row) ++ [row] }

end FlatStore

namespace KeyedMap

/-- The store with its rows read as a flat list. -/
def flat (m : KeyedMap) (rows : List Row) : FlatStore := ⟨m.name, m.arity, m.keyColumns, rows⟩

theorem flat_sameKey (m : KeyedMap) (rows : List Row) (a b : Row) :
    (m.flat rows).sameKey a b = m.sameKey a b := by
  simp only [FlatStore.sameKey, flat, sameKey, keyOf, List.zip_map', List.all_map]
  rfl

theorem flat_matchesKey (m : KeyedMap) (rows : List Row) (key : List Value) (row : Row) :
    (m.flat rows).matchesKey key row = m.matchesKey row key := by
  simp only [FlatStore.matchesKey, flat, matchesKey, keyOf, List.zip_map_left, List.all_map]
  rfl

theorem flat_insert_eq (m : KeyedMap) (rows : List Row) (row : Row) :
    (m.flat rows).insert row =
      if row.length ≠ m.arity then .error (.shape (.arity m.arity row.length))
      else if (m.keyOf row).all Value.isNull then .error (.nullKey m.name)
      else .ok (m.flat (rows.filter (fun old => !m.sameKey old row) ++ [row])) := by
  have hnull : (m.keyOf row).all Value.isNull =
      m.keyColumns.all fun column => (row.getD column .null).isNull := by
    simp only [keyOf, List.all_map]
    rfl
  simp only [hnull, ← flat_sameKey m rows]
  rfl

def atomsOf (m : KeyedMap) (row : Row) : List (Option KeyAtom) := keyAtoms (m.keyOf row)

theorem atomsOf_eq_of_sameKey {m : KeyedMap} {a b : Row} (h : m.sameKey a b = true) :
    m.atomsOf a = m.atomsOf b := by
  rw [← flat_sameKey m []] at h
  simp only [atomsOf, keyAtoms, keyOf, List.map_map]
  apply List.map_congr_left
  intro column member
  exact ofValue_eq_of_sameComponent (List.all_eq_true.mp h column member)

/-- Replacing the rows of one key does not touch rows with other atoms. -/
theorem filter_replaced (m : KeyedMap) (rows : List Row) (row : Row)
    (atoms : List (Option KeyAtom)) :
    (rows.filter (fun old => !m.sameKey old row) ++ [row]).filter
        (fun old => decide (m.atomsOf old = atoms)) =
      if atoms = m.atomsOf row then
        (rows.filter fun old => decide (m.atomsOf old = atoms)).filter
          (fun old => !m.sameKey old row) ++ [row]
      else rows.filter fun old => decide (m.atomsOf old = atoms) := by
  rw [List.filter_append]
  by_cases hatoms : atoms = m.atomsOf row
  · subst hatoms
    rw [List.filter_filter, List.filter_filter]
    simp [Bool.and_comm]
  · rw [if_neg hatoms, List.filter_filter]
    have hrow : [row].filter (fun old => decide (m.atomsOf old = atoms)) = [] := by
      simp [Ne.symm hatoms]
    rw [hrow, List.append_nil]
    apply List.filter_congr
    intro old member
    by_cases hold : m.atomsOf old = atoms
    · have hdiffer : m.sameKey old row = false := by
        apply Bool.eq_false_iff.mpr
        intro hsame
        exact hatoms (hold.symm.trans (atomsOf_eq_of_sameKey hsame))
      simp [hold, hdiffer]
    · simp [hold]

section

variable [KeyHasher]

/-- The partition in which keys with some atoms are kept. -/
def home (m : KeyedMap) (atoms : List (Option KeyAtom)) : Nat :=
  m.partitionOfHash (KeyHasher.hash (atoms.flatMap KeyAtom.feed))

theorem partitionOfHash_hashKey (m : KeyedMap) (key : List Value) :
    m.partitionOfHash (hashKey key) = m.home (keyAtoms key) :=
  congrArg m.partitionOfHash (hashKey_eq_atoms key)

/-- The store after a row has taken the place of the rows with its key. -/
def written (m : KeyedMap) (row : Row) : KeyedMap :=
  { m with
    partitions := m.partitions.modify (m.home (m.atomsOf row))
      (·.modify (m.atomsOf row) fun rows =>
        rows.filter (fun old => !m.sameKey old row) ++ [row]) }

theorem insert_eq (m : KeyedMap) (row : Row) :
    m.insert row =
      if row.length ≠ m.arity then .error (.shape (.arity m.arity row.length))
      else if (m.keyOf row).all Value.isNull then .error (.nullKey m.name)
      else .ok (m.written row) := by
  have hhome : m.partitionOfHash (hashKey (m.keyOf row)) = m.home (m.atomsOf row) :=
    m.partitionOfHash_hashKey (m.keyOf row)
  unfold insert Row.expectArity written
  rw [← hhome]
  by_cases harity : row.length = m.arity
  · rw [if_pos harity, if_neg (not_not_intro harity)]
    change (if (m.keyOf row).all Value.isNull then _ else _) = _
    split <;> rfl
  · rw [if_neg harity, if_pos harity]
    rfl

/-- The invariant between a store and the flat list of its rows. The entry of some atoms, in
their home partition, holds the listed rows with these atoms in the order of the list. -/
structure Stores (m : KeyedMap) (rows : List Row) : Prop where
  partitioned : 0 < m.partitionCount
  keyed : ∀ part ∈ m.partitions, KeyedEntries.Keyed part m.atomsOf
  entry : ∀ i part, m.partitions[i]? = some part → ∀ atoms,
    KeyedEntries.rows part atoms =
      if i = m.home atoms then rows.filter (fun row => decide (m.atomsOf row = atoms)) else []
  arities : ∀ row ∈ rows, row.length = m.arity

theorem home_lt {m : KeyedMap} (h : 0 < m.partitionCount) (atoms : List (Option KeyAtom)) :
    m.home atoms < m.partitions.length :=
  Nat.mod_lt _ h

theorem stores_empty {name : String} {arity count : Nat} {keyColumns : List Nat} {m : KeyedMap}
    (h : empty name arity keyColumns count = .ok m) : m.Stores [] := by
  unfold empty at h
  split at h
  · cases h
  split at h
  · cases h
  obtain rfl := Except.ok.inj h
  refine ⟨?_, ?_, ?_, by simp⟩
  · simp only [partitionCount, List.length_replicate]
    omega
  · intro part member
    rw [(List.mem_replicate.mp member).2]
    exact KeyedEntries.keyed_nil _
  · intro i part hpart atoms
    rw [(List.mem_replicate.mp (List.mem_of_getElem? hpart)).2]
    simp [KeyedEntries.rows]

theorem written_home (m : KeyedMap) (row : Row) (atoms : List (Option KeyAtom)) :
    (m.written row).home atoms = m.home atoms := by
  simp [home, partitionOfHash, partitionCount, written]

/-- A partition after a write is the old one, with one entry changed in the home of the row. -/
theorem getElem?_written {m : KeyedMap} {row : Row} {i : Nat} {part : KeyedEntries}
    (h : (m.written row).partitions[i]? = some part) :
    ∃ old, m.partitions[i]? = some old ∧
      part = if m.home (m.atomsOf row) = i then
          old.modify (m.atomsOf row) fun rows =>
            rows.filter (fun old => !m.sameKey old row) ++ [row]
        else old := by
  simp only [written, List.getElem?_modify] at h
  cases hold : m.partitions[i]? with
  | none => simp [hold] at h
  | some old =>
      refine ⟨old, rfl, ?_⟩
      simpa [hold] using h.symm

/-- A write keeps the invariant, the flat list being changed as a flat store changes it. -/
theorem Stores.written {m : KeyedMap} {rows : List Row} (h : m.Stores rows) {row : Row}
    (harity : row.length = m.arity) :
    (m.written row).Stores (rows.filter (fun old => !m.sameKey old row) ++ [row]) := by
  have hkey : (m.written row).atomsOf = m.atomsOf := rfl
  refine ⟨?_, ?_, ?_, ?_⟩
  · simpa [partitionCount, KeyedMap.written] using h.partitioned
  · intro part member
    obtain ⟨i, hpart⟩ := List.mem_iff_getElem?.mp member
    obtain ⟨old, hold, rfl⟩ := getElem?_written hpart
    have hkeyed := h.keyed old (List.mem_of_getElem? hold)
    rw [hkey]
    split
    next hhome =>
      apply hkeyed.modify
      intro other hother
      rcases List.mem_append.mp hother with hkept | hlast
      · have hentry := (List.mem_filter.mp hkept).1
        rw [h.entry i old hold, if_pos hhome.symm] at hentry
        simpa using (List.mem_filter.mp hentry).2
      · rw [List.mem_singleton.mp hlast]
    next => exact hkeyed
  · intro i part hpart atoms
    obtain ⟨old, hold, rfl⟩ := getElem?_written hpart
    rw [written_home, hkey, filter_replaced]
    have hentry := h.entry i old hold
    by_cases hhome : m.home (m.atomsOf row) = i
    · rw [if_pos hhome, KeyedEntries.rows_modify, hentry, hentry]
      by_cases hatoms : atoms = m.atomsOf row
      · subst hatoms
        simp [hhome]
      · rw [if_neg hatoms, if_neg hatoms]
    · rw [if_neg hhome, hentry]
      by_cases hatoms : atoms = m.atomsOf row
      · subst hatoms
        rw [if_neg (Ne.symm hhome), if_neg (Ne.symm hhome)]
      · rw [if_neg hatoms]
  · intro other member
    rcases List.mem_append.mp member with hkept | hlast
    · exact h.arities other (List.mem_filter.mp hkept).1
    · rw [List.mem_singleton.mp hlast]
      exact harity

/-- One write does the same to the store and to the flat list, refusals included. -/
theorem Stores.insert {m : KeyedMap} {rows : List Row} (h : m.Stores rows) (row : Row) :
    (∃ e, m.insert row = .error e ∧ (m.flat rows).insert row = .error e) ∨
      ∃ next nextRows, m.insert row = .ok next ∧
        (m.flat rows).insert row = .ok (m.flat nextRows) ∧
        next.Stores nextRows ∧ next.flat = m.flat := by
  rw [insert_eq, flat_insert_eq]
  by_cases harity : row.length = m.arity
  · rw [if_neg (not_not_intro harity), if_neg (not_not_intro harity)]
    by_cases hnull : (m.keyOf row).all Value.isNull
    · exact Or.inl ⟨_, if_pos hnull, if_pos hnull⟩
    · exact Or.inr ⟨_, _, if_neg hnull, if_neg hnull, h.written harity, rfl⟩
  · exact Or.inl ⟨_, if_pos harity, if_pos harity⟩

/-- A whole sequence of writes gives the same answers and keeps the invariant. -/
theorem Stores.attempts (inserts : List Row) {m : KeyedMap} {rows : List Row}
    (h : m.Stores rows) :
    (attempts KeyedMap.insert m inserts).1 =
        (attempts FlatStore.insert (m.flat rows) inserts).1 ∧
      ∃ final, (attempts FlatStore.insert (m.flat rows) inserts).2 = m.flat final ∧
        (attempts KeyedMap.insert m inserts).2.Stores final ∧
        (attempts KeyedMap.insert m inserts).2.flat = m.flat := by
  induction inserts generalizing m rows with
  | nil => exact ⟨rfl, rows, rfl, h, rfl⟩
  | cons row rest ih =>
      rcases h.insert row with ⟨e, hm, hs⟩ | ⟨next, nextRows, hm, hs, hnext, hsame⟩
      · obtain ⟨hanswers, hfinal⟩ := ih h
        simp only [JoinEngine.attempts, hm, hs]
        exact ⟨congrArg _ hanswers, hfinal⟩
      · obtain ⟨hanswers, hfinal⟩ := ih hnext
        rw [hsame] at hanswers hfinal
        simp only [JoinEngine.attempts, hm, hs]
        exact ⟨congrArg _ hanswers, hfinal⟩

/-- A lookup finds what a search through the flat list finds, and refuses a key of another
width. -/
theorem Stores.lookup {m : KeyedMap} {rows : List Row} (h : m.Stores rows) (key : List Value) :
    m.lookup key =
      if key.length ≠ m.keyColumns.length then
        .error (.condition (.lookupWidth m.name m.keyColumns.length key.length))
      else .ok (rows.filter ((m.flat rows).matchesKey key)) := by
  unfold KeyedMap.lookup
  split
  next => rfl
  next hwidth =>
    have hlength (row : Row) : (m.keyOf row).length = key.length := by
      simp only [keyOf, List.length_map]
      omega
    have hmatch : (m.flat rows).matchesKey key = fun row => m.matchesKey row key :=
      funext fun row => flat_matchesKey m rows key row
    rw [hmatch]
    unfold partitionOf
    cases hnull : key.any Value.isNull with
    | true =>
        -- a null component equals nothing, so neither side has a row
        have hnone : rows.filter (fun row => m.matchesKey row key) = [] := by
          apply List.filter_eq_nil_iff.mpr
          intro row _ hrow
          have := (keys_of_all_equal (hlength row) hrow).2.2
          rw [hnull] at this
          cases this
        rw [hnone]
        rfl
    | false =>
        rw [partitionOfHash_hashKey]
        have hhome := home_lt h.partitioned (keyAtoms key)
        have hpart := List.getElem?_eq_getElem hhome
        have hentry := h.entry _ _ hpart (keyAtoms key)
        rw [if_pos rfl] at hentry
        change Except.ok ((KeyedEntries.rows ((m.partitions[m.home (keyAtoms key)]?).getD [])
          (keyAtoms key)).filter _) = _
        rw [hpart, Option.getD_some, hentry, List.filter_filter]
        apply congrArg Except.ok
        apply List.filter_congr
        intro row _
        cases hrow : m.matchesKey row key with
        | false => rfl
        | true =>
            have hatoms : m.atomsOf row = keyAtoms key :=
              (keys_of_all_equal (hlength row) hrow).1
            simp [hatoms]

/-- A scan gives the listed rows, each as often as it is listed. -/
theorem Stores.perm {m : KeyedMap} {rows : List Row} (h : m.Stores rows) :
    m.rows.Perm rows := by
  apply List.perm_iff_count.mpr
  intro row
  rw [KeyedMap.rows]
  apply count_flatMap_of_single (home_lt h.partitioned (m.atomsOf row))
  intro i part hpart
  have hkeyed := h.keyed part (List.mem_of_getElem? hpart)
  rw [hkeyed.count_toList, h.entry i part hpart]
  split
  · rw [List.count_filter (by simp)]
  · rfl

end

/-- A keyed store refines a flat list of rows, for every hash function. After any sequence of
writes, refused ones included, the writes have been answered as a flat store answers them; a
lookup of the right width gives, in order, the listed rows whose every key column equals the
sought component; any other lookup is refused; and a scan gives a permutation of the list. -/
theorem keyedMap_refines_flatStore [KeyHasher] (name : String) (arity count : Nat)
    {keyColumns : List Nat} (hsome : keyColumns ≠ []) (hcolumns : ∀ c ∈ keyColumns, c < arity)
    (inserts : List Row) :
    ∃ start, empty name arity keyColumns count = .ok start ∧
      let store := attempts KeyedMap.insert start inserts
      let flat := attempts FlatStore.insert ⟨name, arity, keyColumns, []⟩ inserts
      store.1 = flat.1 ∧
      (∀ key, key.length = keyColumns.length →
        store.2.lookup key = .ok (flat.2.rows.filter (flat.2.matchesKey key))) ∧
      (∀ key, key.length ≠ keyColumns.length →
        store.2.lookup key =
          .error (.condition (.lookupWidth name keyColumns.length key.length))) ∧
      store.2.size = flat.2.rows.length ∧
      store.2.rows.Perm flat.2.rows := by
  have hinside : keyColumns.find? (arity ≤ ·) = none := by
    apply List.find?_eq_none.mpr
    intro c member
    simpa using hcolumns c member
  have hstart : empty name arity keyColumns count =
      .ok ⟨name, arity, keyColumns, List.replicate (max count 1) []⟩ := by
    unfold empty
    rw [if_neg (by simpa using hsome), hinside]
  obtain ⟨hanswers, rows, hflat, hstores, hsame⟩ := (stores_empty hstart).attempts inserts
  change (attempts FlatStore.insert ⟨name, arity, keyColumns, []⟩ inserts).2 = _ at hflat
  have hfields := congrFun hsame rows
  simp only [flat, FlatStore.mk.injEq, and_true] at hfields
  obtain ⟨hname, -, hkeys⟩ := hfields
  refine ⟨_, hstart, hanswers, ?_, ?_, ?_, ?_⟩
  · intro key hwidth
    rw [hstores.lookup, hkeys, if_neg (not_not_intro hwidth), hsame, hflat]
    rfl
  · intro key hwidth
    rw [hstores.lookup, hkeys, hname, if_pos hwidth]
  · rw [hflat]
    exact hstores.perm.length_eq
  · rw [hflat]
    exact hstores.perm

/-- A row whose key is equal as a number replaces another, and lookups find it by either. -/
theorem lookup_after_mixed_writes :
    ∃ start, empty "m" 2 [0] 3 = .ok start ∧
      let store := attempts KeyedMap.insert start
        [[.int32 1, .string "a"], [.null, .string "x"], [.float64 Double.nan, .string "n"],
          [.int64 1, .string "b"]]
      store.1 = [.ok (), .error (.nullKey "m"), .ok (), .ok ()] ∧
      store.2.lookup [.float64 (Double.ofInt 1)] = .ok [[.int64 1, .string "b"]] ∧
      store.2.size = 2 := by
  obtain ⟨start, hstart, hanswers, hlookup, -, hsize, -⟩ :=
    keyedMap_refines_flatStore "m" 2 3 (List.cons_ne_nil 0 []) (by decide)
      [[.int32 1, .string "a"], [.null, .string "x"], [.float64 Double.nan, .string "n"],
        [.int64 1, .string "b"]]
  refine ⟨start, hstart, ?_, ?_, ?_⟩
  · rw [hanswers]
    rfl
  · rw [hlookup _ rfl]
    exact congrArg Except.ok (by decide +kernel)
  · rw [hsize]
    decide +kernel

end KeyedMap

end JoinEngine
