import JoinEngine.Proofs.Outcome
import JoinEngine.Proofs.Relation.FlatStore
import JoinEngine.Relation.Source

/-!
Right relations that do not change while they are joined. `Agrees` asks only that scans which
succeed give the same rows; `Steady` fixes the answer to every call. Relations made of rows in
memory, and keyed stores after any sequence of writes, are steady, and what such a store answers
to a lookup is a search through its rows.
-/

namespace JoinEngine

namespace RightRelation

/-- Every scan that succeeds gives these rows. -/
def Agrees (right : RightRelation) (rows : List Row) : Prop :=
  ∀ n answer, right.scan n = .ok answer → answer = rows

/-- The relation answers every scan with the same rows, and every lookup of a key with the same
answer, whenever it is asked. -/
structure Steady (right : RightRelation) (rows : List Row)
    (found : List Value → Except JoinError (List Row)) : Prop where
  scan : ∀ n, right.scan n = .ok rows
  arities : ∀ row ∈ rows, row.length = right.arity
  lookup : ∀ source, right = .partitioned source → ∀ n key, source.lookup n key = found key
  found_arities : ∀ key answer, found key = .ok answer →
    ∀ row ∈ answer, row.length = right.arity

theorem Steady.agrees {right : RightRelation} {rows : List Row}
    {found : List Value → Except JoinError (List Row)} (h : right.Steady rows found) :
    right.Agrees rows := by
  intro n answer hanswer
  rw [h.scan] at hanswer
  exact (Except.ok.inj hanswer).symm

def rowMatches (columns : List Nat) (key : List Value) (row : Row) : Bool :=
  (columns.zip key).all fun (column, v) => ((row.getD column .null).sqlEquals v).isTrue

/-- Lookups in a keyed store search the rows for those whose key columns equal the key, in an
order of the store's own. -/
def Finds (right : RightRelation) (rows : List Row)
    (found : List Value → Except JoinError (List Row)) : Prop :=
  ∀ source, right = .partitioned source → ∃ listed : List Row, listed.Perm rows ∧
    ∀ key, key.length = source.keyColumns.length →
      found key = .ok (listed.filter (rowMatches source.keyColumns key))

/-- The relations in memory, with the rows that a scan of them gives: rows to be read once, rows
to be read again for each left row, and keyed stores after any writes. -/
inductive InMemory [KeyHasher] : RightRelation → List Row → Prop where
  | bounded {name : String} {arity : Nat} {rows : List Row} {unbounded : Bool}
      {r : MemoryRelation} :
      MemoryRelation.ofRows name arity rows unbounded = .ok r → InMemory (.bounded r.source) rows
  | rescan {name : String} {arity : Nat} {rows : List Row} {unbounded : Bool}
      {r : MemoryRelation} :
      MemoryRelation.ofRows name arity rows unbounded = .ok r → InMemory (.rescan r.source) rows
  | partitioned {name : String} {arity count : Nat} {keyColumns : List Nat} {start : KeyedMap}
      (inserts : List Row) :
      KeyedMap.empty name arity keyColumns count = .ok start →
      InMemory (.partitioned (attempts KeyedMap.insert start inserts).2.source)
        (attempts KeyedMap.insert start inserts).2.rows

end RightRelation

theorem Row.length_of_expectArity {row : Row} {arity : Nat}
    (h : (row.expectArity arity).mapError JoinError.shape = .ok ()) : row.length = arity := by
  unfold Row.expectArity at h
  split at h
  next harity => exact harity
  next => cases h

namespace MemoryRelation

theorem arities_of_forM {rows : List Row} {arity : Nat}
    (h : (rows.forM fun row => (row.expectArity arity).mapError JoinError.shape) = .ok ()) :
    ∀ row ∈ rows, row.length = arity := by
  induction rows with
  | nil => simp
  | cons row rest ih =>
      obtain ⟨u, hrow, hrest⟩ := exists_of_bind_eq_ok h
      intro other member
      rcases List.mem_cons.mp member with rfl | hlater
      · exact Row.length_of_expectArity hrow
      · exact ih hrest other hlater

theorem eq_of_ofRows {name : String} {arity : Nat} {rows : List Row} {unbounded : Bool}
    {r : MemoryRelation} (h : ofRows name arity rows unbounded = .ok r) :
    r = ⟨name, arity, rows, unbounded⟩ ∧ ∀ row ∈ rows, row.length = arity := by
  unfold ofRows at h
  obtain ⟨u, hcheck, hrelation⟩ := exists_of_bind_eq_ok h
  exact ⟨(Except.ok.inj hrelation).symm, arities_of_forM hcheck⟩

end MemoryRelation

namespace RightRelation

variable [KeyHasher]

/-- What a keyed store answers to a lookup, and to every scan. -/
theorem steady_of_stores {m : KeyedMap} {listed : List Row} (h : m.Stores listed) :
    (partitioned m.source).Steady m.rows m.lookup ∧
      (partitioned m.source).Finds m.rows m.lookup := by
  have hperm := h.perm
  refine ⟨⟨fun n => rfl, ?_, ?_, ?_⟩, ?_⟩
  · intro row member
    exact h.arities row (hperm.mem_iff.mp member)
  · intro source hsource n key
    obtain rfl := RightRelation.partitioned.inj hsource
    rfl
  · intro key answer hanswer row member
    rw [h.lookup] at hanswer
    split at hanswer
    · cases hanswer
    · obtain rfl := Except.ok.inj hanswer
      exact h.arities row (List.mem_filter.mp member).1
  · intro source hsource
    obtain rfl := RightRelation.partitioned.inj hsource
    refine ⟨listed, hperm.symm, fun key hwidth => ?_⟩
    exact (h.lookup key).trans (if_neg (not_not_intro hwidth))

/-- Relations in memory are steady, and their lookups search their rows. -/
theorem InMemory.steady {right : RightRelation} {rows : List Row} (h : right.InMemory rows) :
    ∃ found, right.Steady rows found ∧ right.Finds rows found := by
  cases h with
  | bounded hr | rescan hr =>
      obtain ⟨rfl, harities⟩ := MemoryRelation.eq_of_ofRows hr
      refine ⟨fun _ => .ok [], ⟨fun n => rfl, harities, ?_, ?_⟩, ?_⟩
      · rintro source ⟨⟩
      · intro key answer hanswer row member
        obtain rfl := Except.ok.inj hanswer
        cases member
      · rintro source ⟨⟩
  | partitioned inserts hstart =>
      obtain ⟨-, listed, -, hstores, -⟩ := (KeyedMap.stores_empty hstart).attempts inserts
      exact ⟨_, steady_of_stores hstores⟩

end RightRelation

end JoinEngine
