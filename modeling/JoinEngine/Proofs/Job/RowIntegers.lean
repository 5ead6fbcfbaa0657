import JoinEngine.Job.Run
import JoinEngine.Proofs.Json.Tokens
import JoinEngine.Proofs.Relation.OneRowPerKey
import JoinEngine.Proofs.Value.IntegerArithmetic

/-!
Integers of a document as row values. A document can give an integer of 64 bits, with a sign or
without. One that fits with a sign is kept exactly, at the lesser width that holds it. A larger one
is not refused: it becomes the nearest double, and there the doubles are 2048 apart. So different
integers may become one value, and the last integers that are kept are equal to the least that are
not. Among the integers that are kept no two are ever equal.
-/

namespace JoinEngine

theorem divHalfEven_mul {k : Nat} (hk : 0 < k) (num den : Nat) :
    divHalfEven (num * k) (den * k) = divHalfEven num den := by
  unfold divHalfEven
  simp only [Nat.mul_div_mul_right _ _ hk, Nat.mul_mod_mul_right, ← Nat.mul_assoc,
    Nat.mul_lt_mul_right hk]

theorem log2_mul_two_pow {n : Nat} (hn : n ≠ 0) (k : Nat) : (n * 2 ^ k).log2 = n.log2 + k := by
  induction k with
  | zero => simp
  | succ k ih =>
      have hpositive : n * 2 ^ k ≠ 0 := Nat.mul_ne_zero hn (Nat.ne_of_gt (Nat.two_pow_pos k))
      rw [Nat.log2_eq_log_two] at ih ⊢
      rw [Nat.pow_succ, ← Nat.mul_assoc, Nat.log_mul_base Nat.one_lt_two hpositive, ih]
      rfl

namespace Double

/-- The least integer that fits 64 bits only without a sign. -/
def limit : Int := 9223372036854775808

section

variable {m n : Int}

/-- From the limit on, an integer has its place among the doubles by the nearest multiple of
2048. -/
theorem rank_ofInt_of_limit_le (hlow : limit ≤ n) (hhigh : n < 2 * limit) :
    (ofInt n).rank = (1085 * 2 ^ 52 + divHalfEven n.toNat 2048 : Nat) := by
  have hlimit : limit = 2 ^ 63 := by decide
  have hnat : n.natAbs = n.toNat := by omega
  have hone : one = 2 ^ BinaryFormat.double.unitExponent := Nat.one_shiftLeft _
  have hexponent : BinaryFormat.double.unitExponent = 1074 := by decide
  have hlog : n.toNat.log2 = 63 := (Nat.log2_eq_iff (by omega)).mpr (by omega)
  have hshift : BinaryFormat.double.shift (n.toNat * one) = 1085 := by
    unfold BinaryFormat.shift
    rw [hone, log2_mul_two_pow (by omega), hlog, hexponent]
    rfl
  have hunbounded : BinaryFormat.double.unbounded (n.toNat * one) =
      1085 * 2 ^ 52 + divHalfEven n.toNat 2048 := by
    -- the shift is that of the units in one and eleven bits more, which are the integer's own
    have hspacing : 1085 = 11 + BinaryFormat.double.unitExponent := by rw [hexponent]
    have hquotient : divHalfEven (n.toNat * one) (2 ^ 1085) = divHalfEven n.toNat 2048 := by
      rw [hspacing, hone, Nat.pow_add, divHalfEven_mul (Nat.two_pow_pos _)]
    unfold BinaryFormat.unbounded
    rw [hshift, hquotient]
    rfl
  have hfinite : BinaryFormat.double.unbounded (n.toNat * one) ≤ BinaryFormat.double.infinity := by
    refine Nat.le_trans (BinaryFormat.double.unbounded_le _) ?_
    rw [hshift]
    decide
  rw [rank_ofInt, if_neg (by omega), hnat, BinaryFormat.round_one, Nat.min_eq_left hfinite,
    hunbounded]

/-- Two integers from the limit on have one nearest multiple of 2048. -/
def Merged (m n : Int) : Prop :=
  limit ≤ m ∧ limit ≤ n ∧ divHalfEven m.toNat 2048 = divHalfEven n.toNat 2048

/-- An integer below the limit and one from it on both have the limit as their nearest double. -/
def MeetAtLimit (m n : Int) : Prop :=
  (limit - 512 ≤ m ∧ m < limit) ∧ limit ≤ n ∧ n ≤ limit + 1024

instance : Decidable (Merged m n) := inferInstanceAs (Decidable (_ ∧ _ ∧ _))

instance : Decidable (MeetAtLimit m n) := inferInstanceAs (Decidable ((_ ∧ _) ∧ _ ∧ _))

theorem rank_eq_iff_merged (hm : limit ≤ m) (hm' : m < 2 * limit) (hn : limit ≤ n)
    (hn' : n < 2 * limit) : (ofInt m).rank = (ofInt n).rank ↔ Merged m n := by
  rw [rank_ofInt_of_limit_le hm hm', rank_ofInt_of_limit_le hn hn', Nat.cast_inj,
    Nat.add_left_cancel_iff]
  exact ⟨fun h => ⟨hm, hn, h⟩, fun h => h.2.2⟩

theorem ofInt_eq_of_merged (hm' : m < 2 * limit) (hn' : n < 2 * limit) (h : Merged m n) :
    ofInt m = ofInt n := by
  have hrank := (rank_eq_iff_merged h.1 hm' h.2.1 hn').mpr h
  have hplace := rank_ofInt_of_limit_le h.1 hm'
  have hnonzero : (ofInt m).isZero = false := by
    unfold rank at hplace
    unfold isZero
    rw [beq_eq_false_iff_ne]
    split at hplace <;> omega
  exact congrArg Double.mk (bits_eq_of_rank_eq hrank hnonzero)

theorem rank_eq_limit_iff_of_lt (h : m < limit) :
    (ofInt m).rank = (ofInt limit).rank ↔ limit - 512 ≤ m := by
  have hreaches : (ofInt (limit - 512)).rank = (ofInt limit).rank := by decide +kernel
  have hmisses : (ofInt (limit - 513)).rank < (ofInt limit).rank := by decide +kernel
  have hmost := rank_ofInt_mono (Int.le_of_lt h)
  constructor
  · intro hsame
    by_contra hless
    have hleast := rank_ofInt_mono (show m ≤ limit - 513 by omega)
    omega
  · intro hclose
    have hleast := rank_ofInt_mono hclose
    omega

theorem rank_eq_limit_iff_of_le (hlow : limit ≤ n) (hhigh : n < 2 * limit) :
    (ofInt n).rank = (ofInt limit).rank ↔ n ≤ limit + 1024 := by
  have hlimit : limit = 2 ^ 63 := by decide
  have hexact : divHalfEven limit.toNat 2048 = 2 ^ 52 := by decide +kernel
  rw [rank_ofInt_of_limit_le hlow hhigh, rank_ofInt_of_limit_le (Int.le_refl _) (by decide),
    Nat.cast_inj, Nat.add_left_cancel_iff, hexact]
  unfold divHalfEven
  simp only
  split_ifs <;> omega

/-- The limit is between the two integers, so they have one place only if it is the limit's. -/
theorem rank_eq_iff_meetAtLimit (hm : m < limit) (hn : limit ≤ n) (hn' : n < 2 * limit) :
    (ofInt m).rank = (ofInt n).rank ↔ MeetAtLimit m n := by
  have hbelow := rank_eq_limit_iff_of_lt hm
  have habove := rank_eq_limit_iff_of_le hn hn'
  have hmost := rank_ofInt_mono (Int.le_of_lt hm)
  have hleast := rank_ofInt_mono hn
  unfold MeetAtLimit
  constructor
  · intro hsame
    exact ⟨⟨hbelow.mp (by omega), hm⟩, hn, habove.mp (by omega)⟩
  · rintro ⟨⟨hclose, -⟩, -, hnear⟩
    rw [hbelow.mpr hclose, habove.mpr hnear]

end

end Double

theorem IntWidth.fits_narrow_iff {n : Int} :
    narrow.Fits n ↔ Int32.minValue.toInt ≤ n ∧ n ≤ Int32.maxValue.toInt := by
  have hmin : Int32.minValue.toInt = -2147483648 := by decide
  have hmax : Int32.maxValue.toInt = 2147483647 := by decide
  simp only [Fits, bound]
  omega

theorem IntWidth.fits_wide_iff {n : Int} :
    wide.Fits n ↔ Int64.minValue.toInt ≤ n ∧ n ≤ Int64.maxValue.toInt := by
  have hmin : Int64.minValue.toInt = -9223372036854775808 := by decide
  have hmax : Int64.maxValue.toInt = 9223372036854775807 := by decide
  simp only [Fits, bound]
  omega

namespace Value

open Double (limit Merged MeetAtLimit)

inductive StandsFor (n : Int) : Value → Prop
  | narrow (hfits : IntWidth.narrow.Fits n) : StandsFor n (IntWidth.narrow.value n)
  | wide (hlarge : ¬ IntWidth.narrow.Fits n) (hfits : IntWidth.wide.Fits n) :
      StandsFor n (IntWidth.wide.value n)
  | rounded (hlarge : ¬ IntWidth.wide.Fits n) : StandsFor n (float64 (Double.ofInt n))

section

variable {a b v : Value} {m n : Int}

/-- An integer of a document always becomes a row value. -/
theorem ofScalar_integer (n : Int) : ∃ v, ofScalar (.number (.int n)) = .ok v ∧ StandsFor n v := by
  unfold ofScalar
  by_cases hnarrow : IntWidth.narrow.Fits n
  · exact ⟨_, if_pos (IntWidth.fits_narrow_iff.mp hnarrow), .narrow hnarrow⟩
  have hskip := mt IntWidth.fits_narrow_iff.mpr hnarrow
  by_cases hwide : IntWidth.wide.Fits n
  · exact ⟨_, (if_neg hskip).trans (if_pos (IntWidth.fits_wide_iff.mp hwide)), .wide hnarrow hwide⟩
  · have hbeyond := mt IntWidth.fits_wide_iff.mpr hwide
    exact ⟨_, (if_neg hskip).trans (if_neg hbeyond), .rounded hwide⟩

theorem standsFor_of_ofScalar (h : ofScalar (.number (.int n)) = .ok v) : StandsFor n v := by
  obtain ⟨w, hw, hstands⟩ := ofScalar_integer n
  obtain rfl := Except.ok.inj (h.symm.trans hw)
  exact hstands

theorem sqlEquals_iff_relateNumbers (ha : a.class? = some .number)
    (hb : b.class? = some .number) :
    a.sqlEquals b = .true ↔ a.relateNumbers b = .ordered .eq := by
  refine ⟨fun h => ?_, sqlEquals_of_relateNumbers⟩
  obtain ⟨-, -, hrelate⟩ := (sqlEquals_eq_true_iff a b).mp h
  rwa [relate_of_numbers ha hb] at hrelate

namespace StandsFor

/-- Whether it is exact or not, the value is a number whose double is the nearest to the integer. -/
theorem double (h : StandsFor n v) : v.double? = some (Double.ofInt n) ∧ v.isNaN = false := by
  cases h with
  | narrow hfits =>
      have hexact : (Int32.ofInt n).toInt = n := Int32.toInt_ofInt_of_le hfits.1 hfits.2
      exact ⟨congrArg (fun n => some (Double.ofInt n)) hexact, rfl⟩
  | wide _ hfits =>
      have hexact : (Int64.ofInt n).toInt = n := Int64.toInt_ofInt_of_le hfits.1 hfits.2
      exact ⟨congrArg (fun n => some (Double.ofInt n)) hexact, rfl⟩
  | rounded => exact ⟨rfl, Double.isNaN_ofInt n⟩

theorem exact_of_fits (h : StandsFor n v) (hfits : IntWidth.wide.Fits n) :
    ∃ i, v.int? = some i ∧ i.toInt = n := by
  cases h with
  | narrow hnarrow =>
      refine ⟨_, rfl, ?_⟩
      rw [Int32.toInt_toInt64]
      exact Int32.toInt_ofInt_of_le hnarrow.1 hnarrow.2
  | wide => exact ⟨_, rfl, Int64.toInt_ofInt_of_le hfits.1 hfits.2⟩
  | rounded hlarge => exact absurd hfits hlarge

theorem rounded_of_large (h : StandsFor n v) (hlarge : ¬ IntWidth.wide.Fits n) :
    v = float64 (Double.ofInt n) := by
  cases h with
  | narrow hfits => exact absurd (hfits.left .wide) hlarge
  | wide _ hfits => exact absurd hfits hlarge
  | rounded => rfl

theorem exists_integer_iff (h : StandsFor n v) :
    (∃ w, v.integer? = some (w, n)) ↔ IntWidth.wide.Fits n := by
  cases h with
  | narrow hfits => exact ⟨fun _ => hfits.left .wide, fun _ => ⟨_, integer?_value hfits⟩⟩
  | wide _ hfits => exact ⟨fun _ => hfits, fun _ => ⟨_, integer?_value hfits⟩⟩
  | rounded hlarge => exact ⟨nofun, fun hfits => absurd hfits hlarge⟩

theorem integer?_narrow_iff (h : StandsFor n v) :
    v.integer? = some (.narrow, n) ↔ IntWidth.narrow.Fits n := by
  cases h with
  | narrow hfits => exact ⟨fun _ => hfits, fun _ => integer?_value hfits⟩
  | wide hlarge => exact ⟨nofun, fun hfits => absurd hfits hlarge⟩
  | rounded hlarge => exact ⟨nofun, fun hfits => absurd (hfits.left .wide) hlarge⟩

/-- Integers that are kept are equal only if they are the same; any other two are compared as
doubles. -/
theorem sqlEquals_iff (ha : StandsFor m a) (hb : StandsFor n b) :
    a.sqlEquals b = .true ↔
      m = n ∨ ¬ (IntWidth.wide.Fits m ∧ IntWidth.wide.Fits n) ∧
        (Double.ofInt m).rank = (Double.ofInt n).rank := by
  obtain ⟨hx, hxnan⟩ := ha.double
  obtain ⟨hy, hynan⟩ := hb.double
  have hanumber : a.class? = some .number := class?_eq_number_iff.mpr (by rw [hx]; rfl)
  have hbnumber : b.class? = some .number := class?_eq_number_iff.mpr (by rw [hy]; rfl)
  rw [sqlEquals_iff_relateNumbers hanumber hbnumber]
  by_cases hfits : IntWidth.wide.Fits m ∧ IntWidth.wide.Fits n
  · obtain ⟨i, hi, rfl⟩ := ha.exact_of_fits hfits.1
    obtain ⟨j, hj, rfl⟩ := hb.exact_of_fits hfits.2
    simp [relateNumbers, hi, hj, hfits]
  · have hnot : a.int? = none ∨ b.int? = none := by
      rcases not_and_or.mp hfits with hlarge | hlarge
      · exact Or.inl (by rw [ha.rounded_of_large hlarge]; rfl)
      · exact Or.inr (by rw [hb.rounded_of_large hlarge]; rfl)
    constructor
    · intro h
      obtain ⟨x, y, hx', hy', -, hrank⟩ := doubles_of_relateNumbers_eq h
      obtain rfl := Option.some.inj (hx.symm.trans hx')
      obtain rfl := Option.some.inj (hy.symm.trans hy')
      exact Or.inr ⟨hfits, hrank⟩
    · intro h
      have hrank : (Double.ofInt m).rank = (Double.ofInt n).rank := by
        rcases h with rfl | ⟨-, hrank⟩
        · rfl
        · exact hrank
      exact relateNumbers_eq_of_doubles hx hy (by rw [hxnan, hynan]; rfl) hrank hnot

end StandsFor

/-- An integer of a document is too large to be kept if it is not below the limit. -/
theorem fits_wide_iff_of_fitsWord (h : Json.FitsWord n) :
    IntWidth.wide.Fits n ↔ n < limit := by
  have hmin : Int64.minValue.toInt = -9223372036854775808 := by decide
  have hlow := h.1
  simp only [IntWidth.Fits, IntWidth.bound, limit]
  omega

theorem lt_twice_limit_of_fitsWord (h : Json.FitsWord n) : n < 2 * limit := by
  have hmax : (Numeral.maxWord : Int) < 2 * limit := by decide
  exact Int.lt_of_le_of_lt h.2 hmax

/-- Integers of a document that have one place among the doubles and are not both kept. -/
theorem rank_eq_iff_of_fitsWord (hm : Json.FitsWord m) (hn : Json.FitsWord n) :
    ¬ (m < limit ∧ n < limit) ∧ (Double.ofInt m).rank = (Double.ofInt n).rank ↔
      Merged m n ∨ MeetAtLimit m n ∨ MeetAtLimit n m := by
  have hm' := lt_twice_limit_of_fitsWord hm
  have hn' := lt_twice_limit_of_fitsWord hn
  rcases Int.lt_or_le m limit with hbelow | habove
  · rcases Int.lt_or_le n limit with hbelow' | habove
    · unfold Merged MeetAtLimit
      omega
    · rw [Double.rank_eq_iff_meetAtLimit hbelow habove hn']
      unfold Merged MeetAtLimit
      omega
  · rcases Int.lt_or_le n limit with hbelow | habove'
    · rw [eq_comm (a := (Double.ofInt m).rank), Double.rank_eq_iff_meetAtLimit hbelow habove hm']
      unfold Merged MeetAtLimit
      omega
    · rw [Double.rank_eq_iff_merged habove hm' habove' hn']
      unfold Merged MeetAtLimit
      omega

/-- Integers of a document become one value only if they are the same, or merge where neither is
kept. -/
theorem eq_iff_of_fitsWord (hm : Json.FitsWord m) (hn : Json.FitsWord n)
    (ha : ofScalar (.number (.int m)) = .ok a) (hb : ofScalar (.number (.int n)) = .ok b) :
    a = b ↔ m = n ∨ Merged m n := by
  have hstands := standsFor_of_ofScalar ha
  have hother := standsFor_of_ofScalar hb
  have hkept := fits_wide_iff_of_fitsWord hm
  have hkept' := fits_wide_iff_of_fitsWord hn
  have hm' := lt_twice_limit_of_fitsWord hm
  have hn' := lt_twice_limit_of_fitsWord hn
  constructor
  · rintro rfl
    by_cases hfits : IntWidth.wide.Fits m
    · obtain ⟨i, hi, rfl⟩ := hstands.exact_of_fits hfits
      by_cases hfits' : IntWidth.wide.Fits n
      · obtain ⟨j, hj, rfl⟩ := hother.exact_of_fits hfits'
        exact Or.inl (congrArg Int64.toInt (Option.some.inj (hi.symm.trans hj)))
      · rw [hother.rounded_of_large hfits'] at hi
        cases hi
    · have hsame : Double.ofInt m = Double.ofInt n :=
        Option.some.inj (hstands.double.1.symm.trans hother.double.1)
      by_cases hfits' : IntWidth.wide.Fits n
      · obtain ⟨j, hj, -⟩ := hother.exact_of_fits hfits'
        rw [hstands.rounded_of_large hfits] at hj
        cases hj
      · have hlarge : limit ≤ m := Int.not_lt.mp (mt hkept.mpr hfits)
        have hlarge' : limit ≤ n := Int.not_lt.mp (mt hkept'.mpr hfits')
        exact Or.inr ((Double.rank_eq_iff_merged hlarge hm' hlarge' hn').mp
          (congrArg Double.rank hsame))
  · rintro (rfl | hmerged)
    · exact Except.ok.inj (ha.symm.trans hb)
    · have hlarge : ¬ IntWidth.wide.Fits m := mt hkept.mp (Int.not_lt.mpr hmerged.1)
      have hlarge' : ¬ IntWidth.wide.Fits n := mt hkept'.mp (Int.not_lt.mpr hmerged.2.1)
      rw [hstands.rounded_of_large hlarge, hother.rounded_of_large hlarge',
        Double.ofInt_eq_of_merged hm' hn' hmerged]

/-- What becomes of two integers of a document as row values. Neither is refused. An integer is
kept exactly if it is below the limit, at the least width that fits, and else becomes the nearest
double. The two become one value if they are the same, or if both are too large and round to one
multiple of 2048. They are equal as keys also where one is kept and the other is not, if both are
close enough to the limit between them; so integers that are kept are never equal to each other. -/
theorem row_integers_kept_or_rounded (m n : Int) (hm : Json.FitsWord m) (hn : Json.FitsWord n) :
    ∃ a b, ofScalar (.number (.int m)) = .ok a ∧ ofScalar (.number (.int n)) = .ok b ∧
      ((∃ w, a.integer? = some (w, m)) ↔ m < limit) ∧
      (a.integer? = some (.narrow, m) ↔ IntWidth.narrow.Fits m) ∧
      (limit ≤ m → a = float64 (Double.ofInt m)) ∧
      (a = b ↔ m = n ∨ Merged m n) ∧
      (a.sqlEquals b = .true ↔ m = n ∨ Merged m n ∨ MeetAtLimit m n ∨ MeetAtLimit n m) := by
  obtain ⟨a, ha, hstands⟩ := ofScalar_integer m
  obtain ⟨b, hb, hother⟩ := ofScalar_integer n
  have hkept := fits_wide_iff_of_fitsWord hm
  refine ⟨a, b, ha, hb, ?_, ?_, ?_, eq_iff_of_fitsWord hm hn ha hb, ?_⟩
  · rw [← hkept]
    exact hstands.exists_integer_iff
  · exact hstands.integer?_narrow_iff
  · intro hlarge
    exact hstands.rounded_of_large (mt hkept.mp (Int.not_lt.mpr hlarge))
  · rw [hstands.sqlEquals_iff hother, hkept, fits_wide_iff_of_fitsWord hn,
      rank_eq_iff_of_fitsWord hm hn]

/-- The last integer below the limit is kept, and equal as a key to the limit, which is not; the
limit and the integer a thousand and twenty-four above it become one value. -/
theorem row_integers_around_limit :
    ∃ kept rounded, ofScalar (.number (.int (limit - 1))) = .ok kept ∧
      ofScalar (.number (.int limit)) = .ok rounded ∧
      ofScalar (.number (.int (limit + 1024))) = .ok rounded ∧
      (∃ w, kept.integer? = some (w, limit - 1)) ∧ rounded = float64 (Double.ofInt limit) ∧
      kept ≠ rounded ∧ kept.sqlEquals rounded = .true := by
  obtain ⟨kept, rounded, hkept, hrounded, hexact, -, -, hdiffer, hmeet⟩ :=
    row_integers_kept_or_rounded (limit - 1) limit (by decide) (by decide)
  obtain ⟨other, last, hother, hlast, -, -, hdouble, hsame, -⟩ :=
    row_integers_kept_or_rounded limit (limit + 1024) (by decide) (by decide)
  obtain rfl : rounded = other := Except.ok.inj (hrounded.symm.trans hother)
  obtain rfl : rounded = last := hsame.mpr (by decide +kernel)
  refine ⟨kept, rounded, hkept, hrounded, hlast, hexact.mpr (by decide),
    hdouble (Int.le_refl limit), fun h => ?_, hmeet.mpr (by decide +kernel)⟩
  exact absurd (hdiffer.mp h) (by decide +kernel)

/-- The limit is neither kept nor refused, and neither is the integer after it, which becomes the
same value. -/
theorem row_integer_at_limit_rounded :
    Json.FitsWord limit ∧ Json.FitsWord (limit + 1) ∧
      (∃ v, ofScalar (.number (.int limit)) = .ok v ∧
        ofScalar (.number (.int (limit + 1))) = .ok v) ∧
      ¬ ∀ n, Json.FitsWord n →
        (∃ v w, ofScalar (.number (.int n)) = .ok v ∧ v.integer? = some (w, n)) ∨
          ∃ e, ofScalar (.number (.int n)) = .error e := by
  have hwords : Json.FitsWord limit ∧ Json.FitsWord (limit + 1) := by decide
  have hlimit : ofScalar (.number (.int limit)) = .ok (float64 (Double.ofInt limit)) := rfl
  have hsame : Double.ofInt (limit + 1) = Double.ofInt limit := by decide +kernel
  have hnext : ofScalar (.number (.int (limit + 1))) = .ok (float64 (Double.ofInt limit)) :=
    congrArg (fun x => Except.ok (float64 x)) hsame
  refine ⟨hwords.1, hwords.2, ⟨_, hlimit, hnext⟩, fun hstated => ?_⟩
  rcases hstated limit hwords.1 with ⟨v, w, hv, hexact⟩ | ⟨e, he⟩
  · rw [hlimit] at hv
    obtain rfl := Except.ok.inj hv
    cases hexact
  · rw [hlimit] at he
    cases he

end

end Value

end JoinEngine
