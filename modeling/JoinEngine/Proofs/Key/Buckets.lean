import JoinEngine.Proofs.Key.Probe
import Mathlib.Algebra.Group.Nat.Defs

/-!
The size of an index. The number of buckets is the least power of two that is not below four thirds
of the rows asked for, rounded down, and not below sixteen. The rounding drops less than one bucket,
and as the number of buckets is a multiple of four, it never takes the load above three quarters.
Masking a hash leaves its remainder by the number of buckets.
-/

namespace JoinEngine

namespace HashIndex

/-- The number before `n` lies between a power of two and its double, and that double is the power
taken. -/
theorem leastPower_bounds {n : Nat} (hpositive : 0 < n) :
    n ≤ leastPower n ∧ leastPower n < 2 * n := by
  unfold leastPower
  split
  next hone => omega
  next hmore =>
    have hbefore : n - 1 ≠ 0 := by omega
    have hlower : 2 ^ (n - 1).log2 ≤ n - 1 := Nat.log2_self_le hbefore
    have hupper : n - 1 < 2 ^ ((n - 1).log2 + 1) := Nat.lt_log2_self
    rw [Nat.one_shiftLeft]
    rw [Nat.pow_succ] at hupper ⊢
    omega

theorem bucketsFor_bounds (rows : Nat) :
    max (min (rows * 4) (UInt64.size - 1) / 3) minBuckets ≤ bucketsFor rows ∧
      bucketsFor rows < 2 * max (min (rows * 4) (UInt64.size - 1) / 3) minBuckets :=
  leastPower_bounds (Nat.lt_of_lt_of_le (by decide) (Nat.le_max_right _ minBuckets))

theorem minBuckets_le_bucketsFor (rows : Nat) : minBuckets ≤ bucketsFor rows :=
  Nat.le_trans (Nat.le_max_right _ _) (bucketsFor_bounds rows).1

/-- Both numbers are powers of two. -/
theorem minBuckets_dvd_bucketsFor (rows : Nat) : minBuckets ∣ bucketsFor rows := by
  obtain ⟨k, hk⟩ := isPowerOfTwo_bucketsFor rows
  have hle : 2 ^ 4 ≤ 2 ^ k := hk ▸ minBuckets_le_bucketsFor rows
  have hexponent : 4 ≤ k := (Nat.pow_le_pow_iff_right (by decide)).mp hle
  rw [hk]
  exact Nat.pow_dvd_pow 2 hexponent

/-- The count of buckets fits in a word, whatever number of rows is asked for. -/
theorem bucketsFor_lt_size (rows : Nat) : bucketsFor rows < UInt64.size := by
  obtain ⟨-, hupper⟩ := bucketsFor_bounds rows
  have hcut : min (rows * 4) (UInt64.size - 1) ≤ UInt64.size - 1 := Nat.min_le_right _ _
  have hword : UInt64.size = 18446744073709551616 := rfl
  have hleast : minBuckets = 16 := rfl
  omega

/-- Masking leaves the remainder by the number of buckets. -/
theorem bucket_withCapacity (rows : Nat) (hash : UInt64) :
    (withCapacity rows).bucket hash = hash.toNat % bucketsFor rows := by
  have hmask : (UInt64.ofNat (bucketsFor rows - 1)).toNat = bucketsFor rows - 1 :=
    UInt64.toNat_ofNat_of_lt' (Nat.lt_of_le_of_lt (Nat.sub_le _ _) (bucketsFor_lt_size rows))
  obtain ⟨k, hk⟩ := isPowerOfTwo_bucketsFor rows
  calc (withCapacity rows).bucket hash
      = hash.toNat &&& (UInt64.ofNat (bucketsFor rows - 1)).toNat := UInt64.toNat_and _ _
    _ = hash.toNat &&& (2 ^ k - 1) := by rw [hmask, hk]
    _ = hash.toNat % bucketsFor rows := by rw [hk, Nat.and_two_pow_sub_one_eq_mod]

/-- What the division drops is less than a bucket, and the buckets are a multiple of four. -/
theorem load_le_of_fits {rows : Nat} (hfits : rows * 4 < UInt64.size) :
    4 * rows ≤ 3 * bucketsFor rows := by
  obtain ⟨hlower, -⟩ := bucketsFor_bounds rows
  have hwanted : 4 * rows / 3 ≤ bucketsFor rows := by omega
  obtain ⟨quarter, hquarter⟩ : 4 ∣ bucketsFor rows :=
    Nat.dvd_trans (by decide) (minBuckets_dvd_bucketsFor rows)
  omega

/-- Fewer than twice sixteen buckets are sixteen, so there are more only for a larger quotient. -/
theorem half_lt_of_minBuckets_lt {rows : Nat} (hmore : minBuckets < bucketsFor rows) :
    bucketsFor rows / 2 < 4 * rows / 3 := by
  obtain ⟨-, hupper⟩ := bucketsFor_bounds rows
  obtain ⟨share, hshare⟩ := minBuckets_dvd_bucketsFor rows
  have hleast : minBuckets = 16 := rfl
  rw [hleast] at hmore hupper hshare
  omega

/-- An index keeps to its load. For up to 2^61 rows, the number of buckets is a power of two, at
least sixteen, and large enough for four buckets to three rows, though the division rounds down; if
it is more than sixteen, half of it is below the quotient. A hash falls into the bucket of its
remainder by the number of buckets, so into one that is there. -/
theorem buckets_fit_rows (rows : Nat) (hrows : rows ≤ 2 ^ 61) :
    let t := withCapacity rows
    t.bucketCount.isPowerOfTwo ∧ 16 ≤ t.bucketCount ∧ 4 * rows ≤ 3 * t.bucketCount ∧
      (16 < t.bucketCount → t.bucketCount / 2 < 4 * rows / 3) ∧
      ∀ hash : UInt64, t.bucket hash = hash.toNat % t.bucketCount ∧
        t.bucket hash < t.heads.size := by
  intro t
  have hcount : t.bucketCount = bucketsFor rows := Array.size_replicate
  have hfits : rows * 4 < UInt64.size := by
    have hword : UInt64.size = 2 ^ 64 := rfl
    omega
  rw [hcount]
  refine ⟨isPowerOfTwo_bucketsFor rows, minBuckets_le_bucketsFor rows, load_le_of_fits hfits,
    half_lt_of_minBuckets_lt, fun hash => ⟨bucket_withCapacity rows hash, ?_⟩⟩
  exact (records_withCapacity rows).bucket_lt hash

/-- One row more than sixty-four buckets can take. -/
theorem buckets_fit_forty_nine :
    let t := withCapacity 49
    49 ≤ 2 ^ 61 ∧ t.bucketCount = 128 ∧ 4 * 49 ≤ 3 * t.bucketCount ∧
      t.bucketCount / 2 < 4 * 49 / 3 ∧ t.bucket 0xffffffffffffffff = 127 := by
  intro t
  have hrows : 49 ≤ 2 ^ 61 := by decide
  have hcount : t.bucketCount = 128 := by decide +kernel
  obtain ⟨-, -, hload, hhalf, hbucket⟩ := buckets_fit_rows 49 hrows
  refine ⟨hrows, hcount, hload, hhalf (by decide +kernel), ?_⟩
  rw [(hbucket _).1]
  change _ % t.bucketCount = _
  rw [hcount]
  rfl

end HashIndex

end JoinEngine
