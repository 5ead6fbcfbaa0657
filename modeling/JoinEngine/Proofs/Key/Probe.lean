import JoinEngine.Key.Index

/-!
What a chained index holds, seen as the log of its insertions, newest first. An entry's link is
the newest older entry of its bucket, and a bucket's head the newest of all, so following a
chain from its head passes the bucket's entries in the order of the log and comes to its end. A
probe keeps those with the sought hash, which all lie in one bucket, whatever else shares it. As
long as the log fits, no entry has the number of the word that ends a chain.
-/

namespace JoinEngine

namespace HashIndex

def newest (mask : UInt64) (log : List (UInt64 × Nat)) (bucket : Nat) : UInt32 :=
  match log with
  | [] => endOfChain
  | (hash, _) :: older =>
    if (hash &&& mask).toNat = bucket then UInt32.ofNat older.length
    else newest mask older bucket

/-- Every logged entry is stored in its place and linked to the newest older one of its
bucket. -/
def Linked (mask : UInt64) (entries : Array IndexEntry) : List (UInt64 × Nat) → Prop
  | [] => True
  | (hash, row) :: older =>
    entries[older.length]? =
        some ⟨hash, UInt32.ofNat row, newest mask older (hash &&& mask).toNat⟩ ∧
      Linked mask entries older

/-- The index is what the insertions of a log that fits make of an empty one. -/
structure Records (t : HashIndex) (log : List (UInt64 × Nat)) : Prop where
  size : t.entries.size = log.length
  fits : log.length ≤ maxIndexedRows
  bucket_lt : ∀ hash, t.bucket hash < t.heads.size
  heads : ∀ bucket < t.heads.size, t.head bucket = newest t.mask log bucket
  linked : Linked t.mask t.entries log

theorem isPowerOfTwo_bucketsFor (rows : Nat) : (bucketsFor rows).isPowerOfTwo := by
  unfold bucketsFor leastPower
  split
  · exact Nat.isPowerOfTwo_one
  · exact ⟨_, Nat.one_shiftLeft _⟩

theorem bucketsFor_pos (rows : Nat) : 0 < bucketsFor rows :=
  Nat.pos_of_isPowerOfTwo (isPowerOfTwo_bucketsFor rows)

theorem records_withCapacity (rows : Nat) : (withCapacity rows).Records [] := by
  have hpos := bucketsFor_pos rows
  refine ⟨rfl, Nat.zero_le _, ?_, ?_, trivial⟩
  · intro hash
    have hmask : (UInt64.ofNat (bucketsFor rows - 1)).toNat ≤ bucketsFor rows - 1 := by
      rw [UInt64.toNat_ofNat']
      exact Nat.mod_le _ _
    have hbucket : (hash &&& UInt64.ofNat (bucketsFor rows - 1)).toNat ≤
        (UInt64.ofNat (bucketsFor rows - 1)).toNat := by
      rw [UInt64.toNat_and]
      exact Nat.and_le_right
    simp only [bucket, withCapacity, Array.size_replicate]
    omega
  · intro bucket hbucket
    simp only [withCapacity, Array.size_replicate] at hbucket
    simp [head, withCapacity, newest, hbucket]

theorem Linked.push {mask : UInt64} {entries : Array IndexEntry} (entry : IndexEntry)
    {log : List (UInt64 × Nat)} (hsize : log.length ≤ entries.size)
    (h : Linked mask entries log) : Linked mask (entries.push entry) log := by
  induction log with
  | nil => trivial
  | cons logged older ih =>
      rw [List.length_cons] at hsize
      refine ⟨?_, ih (by omega) h.2⟩
      rw [Array.getElem?_push, if_neg (by omega)]
      exact h.1

/-- An insertion adds itself to a log with room for it. -/
theorem Records.insert {t : HashIndex} {log : List (UInt64 × Nat)} (h : t.Records log)
    (hroom : log.length < maxIndexedRows) (hash : UInt64) (row : Nat) :
    (t.insert hash row).Records ((hash, row) :: log) := by
  have hown := h.bucket_lt hash
  refine ⟨?_, hroom, ?_, ?_, ?_, ?_⟩
  · simp [HashIndex.insert, h.size]
  · intro other
    simpa [HashIndex.insert, bucket] using h.bucket_lt other
  · intro other hother
    have hother : other < t.heads.size := by simpa [HashIndex.insert] using hother
    have hold := h.heads other hother
    simp only [head, HashIndex.insert, Array.getD_eq_getD_getElem?,
      Array.getElem?_setIfInBounds] at hold ⊢
    unfold newest
    by_cases hsame : t.bucket hash = other
    · subst hsame
      rw [if_pos rfl, if_pos hown, Option.getD_some, h.size]
      exact (if_pos rfl).symm
    · rw [if_neg hsame, hold]
      exact (if_neg hsame).symm
  · simp only [HashIndex.insert]
    rw [Array.getElem?_push, if_pos h.size.symm, h.heads _ hown]
    rfl
  · exact h.linked.push _ (Nat.le_of_eq h.size.symm)

/-- Iterating from a link comes to the end of the chain: it passes a number of entries, all of
them there, and gives the positions of those with the hash. -/
inductive Walks (entries : Array IndexEntry) (hash : UInt64) : Nat → UInt32 → List Nat → Prop where
  | ended : Walks entries hash 0 endOfChain []
  | found {steps : Nat} {link : UInt32} {entry : IndexEntry} {rows : List Nat} :
      link ≠ endOfChain → entries[link.toNat]? = some entry → entry.hash = hash →
      Walks entries hash steps entry.next rows →
      Walks entries hash (steps + 1) link (entry.row.toNat :: rows)
  | passed {steps : Nat} {link : UInt32} {entry : IndexEntry} {rows : List Nat} :
      link ≠ endOfChain → entries[link.toNat]? = some entry → entry.hash ≠ hash →
      Walks entries hash steps entry.next rows → Walks entries hash (steps + 1) link rows

/-- Fuel for every entry that the walk passes is enough. -/
theorem Walks.chain_eq {entries : Array IndexEntry} {hash : UInt64} {steps fuel : Nat}
    {link : UInt32} {rows : List Nat} (h : Walks entries hash steps link rows)
    (hfuel : steps ≤ fuel) : chain entries hash fuel link = rows := by
  induction h generalizing fuel with
  | ended => cases fuel <;> simp [chain]
  | found hlink hentry hhash _ ih =>
      obtain ⟨fuel, rfl⟩ := Nat.exists_eq_add_of_lt hfuel
      simp [chain, hlink, hentry, hhash, ih (Nat.le_add_right _ fuel)]
  | passed hlink hentry hhash _ ih =>
      obtain ⟨fuel, rfl⟩ := Nat.exists_eq_add_of_lt hfuel
      simp [chain, hlink, hentry, hhash, ih (Nat.le_add_right _ fuel)]

/-- The number of an entry that fits is kept by its link, and is not taken for the end. -/
theorem link_of_fits {position : Nat} (h : position < maxIndexedRows) :
    (UInt32.ofNat position).toNat = position ∧ UInt32.ofNat position ≠ endOfChain := by
  have hsize : maxIndexedRows + 2 = UInt32.size := rfl
  have hkept : (UInt32.ofNat position).toNat = position := UInt32.toNat_ofNat_of_lt' (by omega)
  refine ⟨hkept, fun hend => ?_⟩
  have hlast : endOfChain.toNat = maxIndexedRows + 1 := rfl
  rw [← hend, hkept] at hlast
  omega

/-- The walk from the newest entry of a hash's bucket gives the logged rows of that hash, newest
first. -/
theorem Linked.walks {mask : UInt64} {entries : Array IndexEntry} {log : List (UInt64 × Nat)}
    (h : Linked mask entries log) (hfits : log.length ≤ maxIndexedRows) (hash : UInt64) :
    ∃ steps ≤ log.length, Walks entries hash steps (newest mask log (hash &&& mask).toNat)
      ((log.filter fun entry => entry.1 == hash).map fun entry =>
        (UInt32.ofNat entry.2).toNat) := by
  induction log with
  | nil => exact ⟨0, Nat.le_refl 0, .ended⟩
  | cons logged older ih =>
      obtain ⟨own, row⟩ := logged
      obtain ⟨hentry, holder⟩ := h
      rw [List.length_cons] at hfits ⊢
      obtain ⟨steps, hsteps, hwalk⟩ := ih holder (by omega)
      unfold newest
      by_cases hbucket : (own &&& mask).toNat = (hash &&& mask).toNat
      · obtain ⟨hkept, hlink⟩ := link_of_fits hfits
        rw [← hkept] at hentry
        rw [← hbucket] at hwalk
        refine ⟨steps + 1, by omega, ?_⟩
        rw [if_pos hbucket]
        by_cases hown : own = hash
        · subst hown
          simpa using Walks.found hlink hentry rfl hwalk
        · simpa [hown] using Walks.passed hlink hentry hown hwalk
      · -- another bucket, so another hash
        have hown : own ≠ hash := fun heq => hbucket (by rw [heq])
        refine ⟨steps, by omega, ?_⟩
        rw [if_neg hbucket]
        simpa [hown] using hwalk

theorem Records.walks {t : HashIndex} {log : List (UInt64 × Nat)} (h : t.Records log)
    (hash : UInt64) :
    ∃ steps ≤ t.entries.size, Walks t.entries hash steps (t.head (t.bucket hash))
      ((log.filter fun entry => entry.1 == hash).map fun entry =>
        (UInt32.ofNat entry.2).toNat) := by
  rw [h.size, h.heads _ (h.bucket_lt hash)]
  exact h.linked.walks h.fits hash

theorem Records.probe {t : HashIndex} {log : List (UInt64 × Nat)} (h : t.Records log)
    (hash : UInt64) :
    t.probe hash =
      (log.filter fun entry => entry.1 == hash).map fun entry =>
        (UInt32.ofNat entry.2).toNat := by
  obtain ⟨steps, hsteps, hwalk⟩ := h.walks hash
  exact hwalk.chain_eq hsteps

/-- Positions that fit in a word are kept as they were entered. -/
theorem Records.probe_of_fits {t : HashIndex} {log : List (UInt64 × Nat)} (h : t.Records log)
    (hrows : ∀ entry ∈ log, entry.2 ≤ maxIndexedRows) (hash : UInt64) :
    t.probe hash = (log.filter fun entry => entry.1 == hash).map Prod.snd := by
  rw [h.probe]
  apply List.map_congr_left
  intro entry member
  have hrow := hrows entry (List.mem_filter.mp member).1
  have hsize : maxIndexedRows + 2 = UInt32.size := rfl
  exact UInt32.toNat_ofNat_of_lt' (by omega)

end HashIndex

end JoinEngine
