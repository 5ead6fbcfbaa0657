import JoinEngine.Exec.BuildSide
import JoinEngine.Proofs.Key.Probe

/-!
A materialized side holds the rows it was made of. The arena gives them back in order although it
stores only values back to back, and the candidates for a hash are the rows whose key is free of
nulls and has that hash, newest first. The key's columns and the capacity hint decide how the
rows are indexed, never which rows there are.
-/

namespace JoinEngine

/-- In rows of one length the values behind the first `n` rows are those of the other rows. -/
theorem drop_flatten_of_uniform {α : Type} {rows : List (List α)} {width : Nat}
    (h : ∀ row ∈ rows, row.length = width) (n : Nat) :
    rows.flatten.drop (n * width) = (rows.drop n).flatten := by
  induction n generalizing rows with
  | zero => simp
  | succ n ih =>
      cases rows with
      | nil => simp
      | cons row rest =>
          have hrow := h row List.mem_cons_self
          have hrest := ih fun other member => h other (List.mem_cons_of_mem row member)
          have hwidth : (n + 1) * width = row.length + n * width := by
            rw [hrow, Nat.add_mul, Nat.one_mul, Nat.add_comm]
          rw [List.flatten_cons, hwidth, ← List.drop_drop, List.drop_left, hrest,
            List.drop_succ_cons]

namespace RowArena

structure Holds (a : RowArena) (rows : List Row) : Prop where
  size : a.size = rows.length
  values : a.values.toList = rows.flatten
  arities : ∀ row ∈ rows, row.length = a.arity

theorem holds_empty (arity : Nat) : (empty arity).Holds [] :=
  ⟨rfl, rfl, by simp⟩

theorem Holds.push {a : RowArena} {rows : List Row} (h : a.Holds rows) {row : Row}
    (harity : row.length = a.arity) : (a.push row).Holds (rows ++ [row]) := by
  refine ⟨?_, ?_, ?_⟩
  · simp [RowArena.push, h.size]
  · simp [RowArena.push, h.values]
  · intro other member
    rcases List.mem_append.mp member with hold | hlast
    · exact h.arities other hold
    · rw [List.mem_singleton.mp hlast]
      exact harity

theorem Holds.row {a : RowArena} {rows : List Row} (h : a.Holds rows) {position : Nat}
    {row : Row} (hrow : rows[position]? = some row) : a.row position = row := by
  obtain ⟨hlt, rfl⟩ := List.getElem?_eq_some_iff.mp hrow
  have hwidth := h.arities _ (List.getElem_mem hlt)
  unfold RowArena.row
  rw [Array.toList_extract, List.extract_eq_take_drop, h.values, drop_flatten_of_uniform h.arities,
    List.drop_eq_getElem_cons hlt, List.flatten_cons, Nat.add_sub_cancel_left, ← hwidth,
    List.take_left]

theorem Holds.rows {a : RowArena} {rows : List Row} (h : a.Holds rows) : a.rows = rows := by
  apply List.ext_getElem?
  intro i
  unfold RowArena.rows
  rw [List.getElem?_map, h.size]
  by_cases hi : i < rows.length
  · rw [List.getElem?_range hi, Option.map_some, h.row (List.getElem?_eq_getElem hi),
      List.getElem?_eq_getElem hi]
  · rw [List.getElem?_eq_none (by simpa using hi), List.getElem?_eq_none (by omega)]
    rfl

end RowArena

namespace BuildSide

theorem rowLimit_le (config : JoinConfig) : rowLimit config ≤ maxIndexedRows := by
  unfold rowLimit
  split
  · exact Nat.min_le_right _ _
  · exact Nat.le_refl _

variable [KeyHasher]

/-- The log of an index over the rows: hash and position of every row whose key is free of
nulls, newest first. -/
def keyLog (keys : List Nat) (rows : List Row) : List (UInt64 × Nat) :=
  (rows.zipIdx.filterMap fun (row, i) => (row.key keys).map fun key => (hashKey key, i)).reverse

theorem keyLog_append (keys : List Nat) (rows : List Row) (row : Row) :
    keyLog keys (rows ++ [row]) =
      match row.key keys with
      | some key => (hashKey key, rows.length) :: keyLog keys rows
      | none => keyLog keys rows := by
  unfold keyLog
  rw [List.zipIdx_append, List.filterMap_append, List.reverse_append]
  cases hkey : row.key keys <;> simp [hkey]

theorem length_keyLog_le (keys : List Nat) (rows : List Row) :
    (keyLog keys rows).length ≤ rows.length := by
  unfold keyLog
  rw [List.length_reverse]
  simpa using List.length_filterMap_le
    (fun (row, i) => (row.key keys).map fun key => (hashKey key, i)) rows.zipIdx

/-- The side stores these rows, and its index, if it has one, records their keys. -/
structure Holds (side : BuildSide) (keys : Option (List Nat)) (rows : List Row) : Prop where
  arena : side.arena.Holds rows
  index : ∀ columns, keys = some columns →
    ∃ table, side.index = some table ∧ table.Records (keyLog columns rows)
  unindexed : keys = none → side.index = none

theorem holds_start (arity : Nat) (keys : Option (List Nat)) (capacity : Nat) :
    (start arity keys capacity).Holds keys [] := by
  refine ⟨RowArena.holds_empty arity, ?_, ?_⟩
  · rintro columns rfl
    exact ⟨_, rfl, HashIndex.records_withCapacity capacity⟩
  · rintro rfl
    rfl

theorem add_eq {arity : Nat} {row : Row} (harity : row.length = arity) (keys : List Nat)
    (side : BuildSide) :
    add arity keys side row = .ok ⟨side.arena.push row, side.index.map fun table =>
      match row.key keys with
      | some key => table.insert (hashKey key) side.arena.size
      | none => table⟩ := by
  unfold add Row.expectArity
  rw [if_pos harity]
  rfl

/-- A row of another arity is refused. -/
theorem add_refused {arity : Nat} {row : Row} (harity : row.length ≠ arity) (keys : List Nat)
    (side : BuildSide) : add arity keys side row = .error (.shape (.arity arity row.length)) := by
  unfold add Row.expectArity
  rw [if_neg harity]
  rfl

/-- Storing one more row of the arena's arity succeeds, while there is room. -/
theorem Holds.add {side : BuildSide} {keys : Option (List Nat)} {rows : List Row}
    (h : side.Holds keys rows) (hroom : rows.length < maxIndexedRows) {row : Row}
    (harity : row.length = side.arena.arity) :
    ∃ next, add side.arena.arity (keys.getD []) side row = .ok next ∧
      next.Holds keys (rows ++ [row]) ∧ next.arena.arity = side.arena.arity := by
  refine ⟨_, add_eq harity _ side, ⟨h.arena.push harity, ?_, ?_⟩, rfl⟩
  · rintro columns rfl
    obtain ⟨table, htable, hrecords⟩ := h.index columns rfl
    rw [keyLog_append]
    simp only [htable, Option.map_some, Option.getD_some]
    cases row.key columns with
    | none => exact ⟨table, rfl, hrecords⟩
    | some key =>
        refine ⟨_, rfl, ?_⟩
        rw [h.arena.size]
        exact hrecords.insert (Nat.lt_of_le_of_lt (length_keyLog_le columns rows) hroom) _ _
  · rintro rfl
    simp only [h.unindexed rfl, Option.map_none]

theorem Holds.addAll {keys : Option (List Nat)} (rest : List Row) {side : BuildSide}
    {rows : List Row} (h : side.Holds keys rows)
    (hcount : rows.length + rest.length ≤ maxIndexedRows)
    (harities : ∀ row ∈ rest, row.length = side.arena.arity) :
    ∃ final, rest.foldlM (BuildSide.add side.arena.arity (keys.getD [])) side = .ok final ∧
      final.Holds keys (rows ++ rest) := by
  induction rest generalizing side rows with
  | nil => exact ⟨side, rfl, by simpa using h⟩
  | cons row rest ih =>
      rw [List.length_cons] at hcount
      obtain ⟨next, hnext, hholds, hsame⟩ := h.add (by omega) (harities row List.mem_cons_self)
      rw [← hsame] at harities
      have hmore : (rows ++ [row]).length + rest.length ≤ maxIndexedRows := by
        rw [List.length_append, List.length_singleton]
        omega
      obtain ⟨final, hfinal, hlast⟩ := ih hholds hmore fun other member =>
        harities other (List.mem_cons_of_mem row member)
      refine ⟨final, ?_, by simpa using hlast⟩
      rw [List.foldlM_cons, hnext, ← hsame]
      exact hfinal

/-- Rows of one arity, not too many, make a side that holds them. -/
theorem ofRows_holds {rows : List Row} {arity : Nat} (keys : Option (List Nat)) (hint : Nat)
    (hcount : rows.length ≤ maxIndexedRows) (harities : ∀ row ∈ rows, row.length = arity) :
    ∃ side, ofRows rows arity keys hint = .ok side ∧ side.Holds keys rows := by
  unfold ofRows
  rw [if_neg (by omega)]
  exact (holds_start arity keys _).addAll rows (by simpa using hcount) harities

/-- Searching logged positions by hash and reading the rows there is searching the rows. -/
theorem map_filter_filterMap_key (columns : List Nat) (place : Nat → Row)
    {items : List (Row × Nat)} (hplace : ∀ entry ∈ items, place entry.2 = entry.1)
    (hash : UInt64) :
    ((items.filterMap fun (row, i) =>
        (row.key columns).map fun key => (hashKey key, i)).filter
          (fun entry => entry.1 == hash)).map (fun entry => place entry.2) =
      (items.map Prod.fst).filter fun row => (row.key columns).map hashKey == some hash := by
  induction items with
  | nil => rfl
  | cons entry rest ih =>
      have hrest := ih fun other member => hplace other (List.mem_cons_of_mem entry member)
      have hentry := hplace entry List.mem_cons_self
      obtain ⟨row, i⟩ := entry
      cases hkey : row.key columns with
      | none => simpa [hkey] using hrest
      | some key =>
          by_cases hhash : hashKey key = hash
          · simpa [hkey, hhash, hentry] using hrest
          · simpa [hkey, hhash] using hrest

/-- The rows with a key are logged with its hash and their positions. -/
theorem mem_keyLog {rows : List Row} {columns : List Nat} {hash : UInt64} {position : Nat} :
    (hash, position) ∈ keyLog columns rows ↔
      ∃ row, rows[position]? = some row ∧ (row.key columns).map hashKey = some hash := by
  unfold keyLog
  simp only [List.mem_reverse, List.mem_filterMap, Option.map_eq_some_iff, Prod.mk.injEq]
  constructor
  · rintro ⟨⟨row, i⟩, member, key, hkey, rfl, rfl⟩
    exact ⟨row, List.mem_zipIdx_iff_getElem?.mp member, key, hkey, rfl⟩
  · rintro ⟨row, hrow, key, hkey, rfl⟩
    exact ⟨(row, position), List.mem_zipIdx_iff_getElem?.mpr hrow, key, hkey, rfl, rfl⟩

section

variable {side : BuildSide} {columns : List Nat} {rows : List Row}
  (h : side.Holds (some columns) rows) (hcount : rows.length ≤ maxIndexedRows)

include h hcount

/-- The candidates for a hash are logged positions, in the order of the log. -/
theorem Holds.candidates_eq (hash : UInt64) :
    side.candidates hash =
      ((keyLog columns rows).filter fun entry => entry.1 == hash).map Prod.snd := by
  obtain ⟨table, htable, hrecords⟩ := h.index columns rfl
  have hfits : ∀ entry ∈ keyLog columns rows, entry.2 ≤ maxIndexedRows := by
    rintro ⟨own, position⟩ member
    obtain ⟨row, hrow, -⟩ := mem_keyLog.mp member
    have hlt := (List.getElem?_eq_some_iff.mp hrow).1
    exact Nat.le_trans (Nat.le_of_lt hlt) hcount
  unfold BuildSide.candidates
  rw [htable]
  exact hrecords.probe_of_fits hfits hash

/-- The candidate rows for a hash are the rows with a key of that hash, newest first. -/
theorem Holds.candidates (hash : UInt64) :
    (side.candidates hash).map side.arena.row =
      (rows.filter fun row => (row.key columns).map hashKey == some hash).reverse := by
  have hplaced : ∀ entry ∈ rows.zipIdx, side.arena.row entry.2 = entry.1 := by
    intro entry member
    exact h.arena.row (List.mem_zipIdx_iff_getElem?.mp member)
  have hsearch := map_filter_filterMap_key columns side.arena.row hplaced hash
  rw [List.zipIdx_map_fst] at hsearch
  rw [h.candidates_eq hcount, keyLog, List.filter_reverse, List.map_reverse, List.map_reverse,
    List.map_map, ← hsearch]
  rfl

end

end BuildSide

end JoinEngine
