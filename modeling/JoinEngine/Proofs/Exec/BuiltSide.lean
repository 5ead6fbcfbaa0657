import JoinEngine.Key.Fnv
import JoinEngine.Proofs.Exec.Materialized

/-!
When a side can be made of some rows, and what is in it. A side is refused for too many rows or
for the first row of another arity, and for nothing else. One that is made gives back every row in
its place. Its index has the rows without a null in their key, and a hash leads to the positions
of those whose key has the hash; a null elsewhere in the row, or a column that the key names
twice, is of no account.
-/

namespace JoinEngine

namespace Row

def components (row : Row) (columns : List Nat) : List Value :=
  columns.filterMap fun column => row[column]?

/-- A row has a key in columns of its own if none of them holds a null. -/
theorem key_eq_components {row : Row} {columns : List Nat}
    (hcolumns : ∀ c ∈ columns, c < row.length) :
    row.key columns =
      if .null ∈ row.components columns then none else some (row.components columns) := by
  induction columns with
  | nil => rfl
  | cons c rest ih =>
      have hc : c < row.length := hcolumns c List.mem_cons_self
      have hrest := ih fun other member => hcolumns other (List.mem_cons_of_mem c member)
      have hcomponents : row.components (c :: rest) = row[c] :: row.components rest := by
        simp [components, hc]
      rw [hcomponents, key, List.getElem?_eq_getElem hc, hrest]
      cases hvalue : row[c] with
      | null => simp [Value.isNull]
      | _ => by_cases hnull : Value.null ∈ row.components rest <;> simp [Value.isNull, hnull]

theorem key_map_eq_some_iff {row : Row} {columns : List Nat} {β : Type}
    (hcolumns : ∀ c ∈ columns, c < row.length) (f : List Value → β) (b : β) :
    (row.key columns).map f = some b ↔
      .null ∉ row.components columns ∧ f (row.components columns) = b := by
  rw [key_eq_components hcolumns]
  by_cases hnull : Value.null ∈ row.components columns <;> simp [hnull]

end Row

namespace BuildSide

section

variable [KeyHasher] {rows : List Row} {arity : Nat}

/-- The first row of another arity stops the storing of rows. -/
theorem foldlM_add_eq_error {bad : Row}
    (hbad : rows.find? (fun row => row.length ≠ arity) = some bad) (keys : List Nat)
    (side : BuildSide) :
    rows.foldlM (add arity keys) side = .error (.shape (.arity arity bad.length)) := by
  induction rows generalizing side with
  | nil => cases hbad
  | cons row rest ih =>
      rw [List.foldlM_cons]
      by_cases harity : row.length = arity
      · rw [List.find?_cons_of_neg (by simpa using harity)] at hbad
        rw [add_eq harity]
        exact ih hbad _
      · rw [List.find?_cons_of_pos (by simpa using harity)] at hbad
        obtain rfl := Option.some.inj hbad
        rw [add_refused harity]
        rfl

/-- Later rows come earlier in the log. -/
theorem keyLog_descending (columns : List Nat) (rows : List Row) :
    (keyLog columns rows).Pairwise fun a b => a.2 > b.2 := by
  have hplaces : rows.zipIdx.Pairwise fun a b => a.2 < b.2 := by
    apply List.pairwise_map.mp
    rw [List.zipIdx_map_snd]
    exact List.pairwise_lt_range'
  unfold keyLog
  rw [List.pairwise_reverse]
  apply hplaces.filterMap
  simp only [Option.map_eq_some_iff]
  rintro ⟨row, i⟩ ⟨other, j⟩ hlt _ ⟨key, -, rfl⟩ _ ⟨otherKey, -, rfl⟩
  exact hlt

/-- Every row with a key is logged, once. -/
theorem length_keyLog (columns : List Nat) (rows : List Row) :
    (keyLog columns rows).length = rows.countP fun row => (row.key columns).isSome := by
  have hplaced : rows.countP (fun row => (row.key columns).isSome) =
      rows.zipIdx.countP ((fun row => (row.key columns).isSome) ∘ Prod.fst) := by
    rw [← List.countP_map, List.zipIdx_map_fst]
  unfold keyLog
  rw [List.length_reverse, List.length_filterMap_eq_countP, hplaced]
  apply List.countP_congr
  rintro ⟨row, i⟩ _
  simp

section

variable {side : BuildSide} {columns : List Nat} (h : side.Holds (some columns) rows)

include h

theorem Holds.candidates_descending (hcount : rows.length ≤ maxIndexedRows) (hash : UInt64) :
    (side.candidates hash).Pairwise (· > ·) := by
  rw [h.candidates_eq hcount, List.pairwise_map]
  exact (keyLog_descending columns rows).filter _

theorem Holds.mem_candidates (hcount : rows.length ≤ maxIndexedRows) {hash : UInt64}
    {position : Nat} :
    position ∈ side.candidates hash ↔
      ∃ row, rows[position]? = some row ∧ (row.key columns).map hashKey = some hash := by
  rw [h.candidates_eq hcount, ← mem_keyLog, List.mem_map]
  constructor
  · rintro ⟨⟨own, i⟩, member, rfl⟩
    obtain ⟨hlogged, hown⟩ := List.mem_filter.mp member
    obtain rfl : own = hash := beq_iff_eq.mp hown
    exact hlogged
  · intro hlogged
    exact ⟨(hash, position), List.mem_filter.mpr ⟨hlogged, beq_self_eq_true hash⟩, rfl⟩

theorem Holds.indexedRows_eq :
    side.indexedRows = rows.countP fun row => (row.key columns).isSome := by
  obtain ⟨table, htable, hrecords⟩ := h.index columns rfl
  unfold indexedRows
  rw [htable, ← length_keyLog]
  exact hrecords.size

end

end

/-- Why no side can be made of the rows: there are too many of them, or else the first of another
arity. -/
def refusal? (rows : List Row) (arity : Nat) : Option JoinError :=
  if maxIndexedRows < rows.length then some (.plan (.indexCapacity rows.length maxIndexedRows))
  else
    (rows.find? fun row => row.length ≠ arity).map fun row => .shape (.arity arity row.length)

section

variable {rows : List Row} {arity : Nat}

theorem ofRows_of_refusal [KeyHasher] (keys : Option (List Nat)) (hint : Nat) {e : JoinError}
    (h : refusal? rows arity = some e) : ofRows rows arity keys hint = .error e := by
  unfold refusal? at h
  unfold ofRows
  by_cases hcount : maxIndexedRows < rows.length
  · rw [if_pos hcount] at h ⊢
    rw [Option.some.inj h]
  · rw [if_neg hcount] at h ⊢
    obtain ⟨bad, hbad, rfl⟩ := Option.map_eq_some_iff.mp h
    exact foldlM_add_eq_error hbad _ _

theorem fits_of_refusal (h : refusal? rows arity = none) :
    rows.length ≤ maxIndexedRows ∧ ∀ row ∈ rows, row.length = arity := by
  unfold refusal? at h
  by_cases hcount : maxIndexedRows < rows.length
  · rw [if_pos hcount] at h
    cases h
  · rw [if_neg hcount] at h
    simp only [Option.map_eq_none_iff, List.find?_eq_none] at h
    refine ⟨Nat.le_of_not_lt hcount, fun row member => ?_⟩
    simpa using h row member

end

/-- A side holds every row and indexes the rows with a full key. Making it fails for the reasons
that `refusal?` gives and for no other. A side that is made gives back the rows by position and in
order. Without key columns it has no candidates. With key columns, all of the rows' arity, the
candidates for a hash are the positions of the rows whose key has no null and has the hash, the
last row first, and the rows without a null in their key are counted as indexed. -/
theorem ofRows_holds_every_row [KeyHasher] (rows : List Row) (arity : Nat)
    (keys : Option (List Nat)) (hint : Nat)
    (hkeys : ∀ columns, keys = some columns → ∀ c ∈ columns, c < arity) :
    (∀ e, ofRows rows arity keys hint = .error e ↔ refusal? rows arity = some e) ∧
    (refusal? rows arity = none →
      ∃ side, ofRows rows arity keys hint = .ok side ∧ side.size = rows.length ∧
        (∀ (i : Nat) (hi : i < rows.length), side.arena.row i = rows[i]) ∧
        side.arena.rows = rows ∧
        (keys = none → ∀ hash, side.candidates hash = []) ∧
        ∀ columns, keys = some columns →
          side.indexedRows = rows.countP (fun row => .null ∉ row.components columns) ∧
          ∀ hash, (side.candidates hash).Pairwise (· > ·) ∧
            ∀ i, i ∈ side.candidates hash ↔ ∃ row, rows[i]? = some row ∧
              .null ∉ row.components columns ∧ hashKey (row.components columns) = hash) := by
  have hmade : refusal? rows arity = none →
      ∃ side, ofRows rows arity keys hint = .ok side ∧ side.Holds keys rows := by
    intro hrefusal
    obtain ⟨hcount, harities⟩ := fits_of_refusal hrefusal
    exact ofRows_holds keys hint hcount harities
  refine ⟨fun e => ⟨fun herror => ?_, ofRows_of_refusal keys hint⟩, fun hrefusal => ?_⟩
  · cases hrefusal : refusal? rows arity with
    | some f =>
        rw [ofRows_of_refusal keys hint hrefusal] at herror
        rw [Except.error.inj herror]
    | none =>
        obtain ⟨side, hside, -⟩ := hmade hrefusal
        rw [hside] at herror
        cases herror
  · obtain ⟨hcount, harities⟩ := fits_of_refusal hrefusal
    obtain ⟨side, hside, hholds⟩ := hmade hrefusal
    refine ⟨side, hside, hholds.arena.size, ?_, hholds.arena.rows, ?_, ?_⟩
    · intro i hi
      exact hholds.arena.row (List.getElem?_eq_getElem hi)
    · intro hnone hash
      unfold candidates
      rw [hholds.unindexed hnone]
    · rintro columns rfl
      have hcolumns : ∀ row ∈ rows, ∀ c ∈ columns, c < row.length := by
        intro row member c hc
        rw [harities row member]
        exact hkeys columns rfl c hc
      refine ⟨?_, fun hash => ⟨hholds.candidates_descending hcount hash, fun i => ?_⟩⟩
      · rw [hholds.indexedRows_eq]
        apply List.countP_congr
        intro row member
        rw [Row.key_eq_components (hcolumns row member)]
        by_cases hnull : Value.null ∈ row.components columns <;> simp [hnull]
      · rw [hholds.mem_candidates hcount]
        apply exists_congr
        intro row
        apply and_congr_right
        intro hrow
        exact Row.key_map_eq_some_iff (hcolumns row (List.mem_of_getElem? hrow)) hashKey hash

/-- The key names a column twice. A null in it keeps a row out of the index, one beside it does
not, and the numbers of both kinds are candidates for the hash of a third. -/
theorem ofRows_indexes_full_keys :
    let rows : List Row := [[.int32 1, .null, .string "a"], [.null, .int32 1, .string "a"],
      [.float64 (Double.ofInt 1), .bool true, .string "a"], [.int32 2, .null, .string "a"]]
    let columns : List Nat := [2, 0, 2]
    let hash := hashKey [.string "a", .int64 1, .string "a"]
    (∀ c ∈ columns, c < 3) ∧ refusal? rows 3 = none ∧
      ∃ side, ofRows rows 3 (some columns) 0 = .ok side ∧ side.arena.rows = rows ∧
        side.indexedRows = 3 ∧ 0 ∈ side.candidates hash ∧ 1 ∉ side.candidates hash ∧
        2 ∈ side.candidates hash ∧ 3 ∉ side.candidates hash := by
  intro rows columns hash
  have hcolumns : ∀ c ∈ columns, c < 3 := by decide
  have hrefusal : refusal? rows 3 = none := by decide
  have hkeys : ∀ other, some columns = some other → ∀ c ∈ other, c < 3 := by
    intro other hother
    rwa [← Option.some.inj hother]
  obtain ⟨-, hmade⟩ := ofRows_holds_every_row rows 3 (some columns) 0 hkeys
  obtain ⟨side, hside, -, -, hrows, -, hindex⟩ := hmade hrefusal
  obtain ⟨hindexed, hcandidates⟩ := hindex columns rfl
  have hmem := (hcandidates hash).2
  refine ⟨hcolumns, hrefusal, side, hside, hrows, hindexed.trans (by decide), ?_, ?_, ?_, ?_⟩
  · exact (hmem 0).mpr ⟨_, rfl, by decide, by decide +kernel⟩
  · intro member
    obtain ⟨_, ⟨⟩, hfull, -⟩ := (hmem 1).mp member
    exact hfull (by decide)
  · exact (hmem 2).mpr ⟨_, rfl, by decide, by decide +kernel⟩
  · intro member
    obtain ⟨_, ⟨⟩, -, hhash⟩ := (hmem 3).mp member
    exact absurd hhash (by decide +kernel)

end BuildSide

end JoinEngine
