import JoinEngine.Proofs.Key.Probe

/-!
An index gives back what was entered. After any insertions that fit, a probe follows its bucket's
chain to the end and gives the positions entered under its hash, the last one first, each as often
as it was entered. How many buckets there are and which hashes share one cannot be told from that.
A link leads to an older entry or nowhere, which is why every chain ends.
-/

namespace JoinEngine

namespace HashIndex

/-- Enter rows under their hashes, one after the other. -/
def insertAll (t : HashIndex) (inserts : List (UInt64 × Nat)) : HashIndex :=
  inserts.foldl (fun t entry => t.insert entry.1 entry.2) t

/-- Insertions add themselves to a log with room for them, the last one in front. -/
theorem Records.insertAll {inserts log : List (UInt64 × Nat)} {t : HashIndex} (h : t.Records log)
    (hroom : log.length + inserts.length ≤ maxIndexedRows) :
    (t.insertAll inserts).Records (inserts.reverse ++ log) := by
  induction inserts generalizing t log with
  | nil => simpa [HashIndex.insertAll] using h
  | cons entry rest ih =>
      rw [List.length_cons] at hroom
      have hfirst : (t.insert entry.1 entry.2).Records (entry :: log) :=
        h.insert (by omega) entry.1 entry.2
      have hall := ih hfirst (by rw [List.length_cons]; omega)
      simpa [HashIndex.insertAll] using hall

/-- The newest logged entry of a bucket is in the log, if there is one. -/
theorem newest_lt (mask : UInt64) (log : List (UInt64 × Nat)) (bucket : Nat) :
    newest mask log bucket = endOfChain ∨ (newest mask log bucket).toNat < log.length := by
  induction log with
  | nil => exact Or.inl rfl
  | cons logged older ih =>
      unfold newest
      rw [List.length_cons]
      split
      · right
        have hle : (UInt32.ofNat older.length).toNat ≤ older.length := by
          rw [UInt32.toNat_ofNat']
          exact Nat.mod_le _ _
        omega
      · rcases ih with hend | hlt
        · exact Or.inl hend
        · right
          omega

theorem Linked.next_lt {mask : UInt64} {entries : Array IndexEntry} {log : List (UInt64 × Nat)}
    (h : Linked mask entries log) {position : Nat} (hposition : position < log.length)
    {entry : IndexEntry} (hentry : entries[position]? = some entry) :
    entry.next = endOfChain ∨ entry.next.toNat < position := by
  induction log with
  | nil => cases hposition
  | cons logged older ih =>
      obtain ⟨hlast, holder⟩ := h
      rw [List.length_cons] at hposition
      by_cases hnew : position = older.length
      · subst hnew
        obtain rfl := Option.some.inj (hlast.symm.trans hentry)
        exact newest_lt mask older _
      · exact ih holder (by omega)

/-- A stored link leads to an older entry or nowhere. -/
theorem Records.next_lt {t : HashIndex} {log : List (UInt64 × Nat)} (h : t.Records log)
    {position : Nat} {entry : IndexEntry} (hentry : t.entries[position]? = some entry) :
    entry.next = endOfChain ∨ entry.next.toNat < position := by
  obtain ⟨hposition, -⟩ := Array.getElem?_eq_some_iff.mp hentry
  rw [h.size] at hposition
  exact h.linked.next_lt hposition hentry

/-- An index is exact, whatever it was made for. After insertions that fit, and for every hash,
following the chain from the head of the hash's bucket comes to its end within as many steps as
there are entries, and gives the rows entered under the hash in the reverse of the order they were
entered in, each as often as it was. Every stored link ends a chain or leads to an older entry. -/
theorem probe_gives_insertions (capacity : Nat) (inserts : List (UInt64 × Nat))
    (hcount : inserts.length ≤ maxIndexedRows)
    (hrows : ∀ entry ∈ inserts, entry.2 ≤ maxIndexedRows) :
    let t := (withCapacity capacity).insertAll inserts
    t.size = inserts.length ∧
      (∀ hash,
        t.probe hash = ((inserts.filter fun entry => entry.1 == hash).map Prod.snd).reverse ∧
        ∃ steps ≤ inserts.length,
          Walks t.entries hash steps (t.head (t.bucket hash)) (t.probe hash)) ∧
      ∀ (position : Nat) (entry : IndexEntry), t.entries[position]? = some entry →
        entry.next = endOfChain ∨ entry.next.toNat < position := by
  intro t
  have hrecords : t.Records inserts.reverse := by
    have hall : t.Records (inserts.reverse ++ []) :=
      (records_withCapacity capacity).insertAll (by simpa using hcount)
    rwa [List.append_nil] at hall
  have hsize : t.entries.size = inserts.length := by
    rw [hrecords.size, List.length_reverse]
  refine ⟨hsize, fun hash => ⟨?_, ?_⟩, fun position entry hentry => hrecords.next_lt hentry⟩
  · have hreversed : ∀ entry ∈ inserts.reverse, entry.2 ≤ maxIndexedRows := by
      intro entry member
      exact hrows entry (List.mem_reverse.mp member)
    rw [hrecords.probe_of_fits hreversed, List.filter_reverse, List.map_reverse]
  · obtain ⟨steps, hsteps, hwalk⟩ := hrecords.walks hash
    rw [← hrecords.probe] at hwalk
    exact ⟨steps, hsize ▸ hsteps, hwalk⟩

/-- Three hashes share a bucket of the smallest index, and the last position that fits is kept. -/
theorem probe_gives_colliding_insertions :
    let inserts : List (UInt64 × Nat) := [(3, 0), (19, 1), (3, 2), (35, 4294967294), (3, 2)]
    let t := (withCapacity 0).insertAll inserts
    inserts.length ≤ maxIndexedRows ∧ (∀ entry ∈ inserts, entry.2 ≤ maxIndexedRows) ∧
      (withCapacity 0).bucket 3 = (withCapacity 0).bucket 19 ∧
      (withCapacity 0).bucket 3 = (withCapacity 0).bucket 35 ∧
      t.probe 3 = [2, 2, 0] ∧ t.probe 19 = [1] ∧ t.probe 35 = [4294967294] ∧ t.probe 51 = [] := by
  intro inserts t
  have hcount : inserts.length ≤ maxIndexedRows := by decide
  have hrows : ∀ entry ∈ inserts, entry.2 ≤ maxIndexedRows := by decide
  obtain ⟨-, hprobe, -⟩ := probe_gives_insertions 0 inserts hcount hrows
  refine ⟨hcount, hrows, by decide +kernel, by decide +kernel, ?_, ?_, ?_, ?_⟩
  · exact (hprobe 3).1.trans (by decide)
  · exact (hprobe 19).1.trans (by decide)
  · exact (hprobe 35).1.trans (by decide)
  · exact (hprobe 51).1.trans (by decide)

end HashIndex

end JoinEngine
