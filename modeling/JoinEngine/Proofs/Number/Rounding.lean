import JoinEngine.Number.Double
import Mathlib.Data.Nat.Log
import Mathlib.Tactic.Ring

/-!
Rounding keeps the order. A quotient rounded to a whole number grows with what is divided, and so
does the magnitude nearest to a number of units: within one power of two because the quotients do,
and from one power to the next because the magnitudes of the lower one end where those of the upper
one begin. So the doubles nearest to two integers are never the other way round, though they may be
the same.
-/

namespace JoinEngine

section

variable {num other den : Nat}

theorem div_le_divHalfEven : num / den ≤ divHalfEven num den := by
  unfold divHalfEven
  simp only
  split_ifs <;> omega

theorem divHalfEven_le_succ : divHalfEven num den ≤ num / den + 1 := by
  unfold divHalfEven
  simp only
  split_ifs <;> omega

theorem divHalfEven_mono (h : num ≤ other) : divHalfEven num den ≤ divHalfEven other den := by
  have hquotient : num / den ≤ other / den := Nat.div_le_div_right h
  rcases Nat.lt_or_eq_of_le hquotient with hless | hsame
  · calc divHalfEven num den ≤ num / den + 1 := divHalfEven_le_succ
      _ ≤ other / den := hless
      _ ≤ divHalfEven other den := div_le_divHalfEven
  · have hnum := Nat.div_add_mod num den
    have hother := Nat.div_add_mod other den
    rw [← hsame] at hother
    have hremainder : num % den ≤ other % den := by omega
    unfold divHalfEven
    simp only
    rw [← hsame]
    split_ifs <;> omega

/-- A quotient that is at most a whole number is rounded to at most that number. -/
theorem divHalfEven_le {bound : Nat} (hden : 0 < den) (h : num ≤ bound * den) :
    divHalfEven num den ≤ bound := by
  have hexact : divHalfEven (bound * den) den = bound := by
    unfold divHalfEven
    simp only [Nat.mul_mod_left, Nat.mul_div_cancel _ hden]
    rw [if_pos (by omega)]
  calc divHalfEven num den ≤ divHalfEven (bound * den) den := divHalfEven_mono h
    _ = bound := hexact

end

namespace BinaryFormat

variable (f : BinaryFormat)

theorem round_le_infinity (num den : Nat) : f.round num den ≤ f.infinity :=
  Nat.min_le_right _ _

/-- How far a number of units is shifted to fit into the fraction. -/
def shift (num : Nat) : Nat := num.log2 - f.fractionBits

/-- The magnitude of a number of units, before what is too large becomes infinity. -/
def unbounded (num : Nat) : Nat :=
  f.shift num * 2 ^ f.fractionBits + divHalfEven num (2 ^ f.shift num)

theorem round_one (num : Nat) : f.round num 1 = min (f.unbounded num) f.infinity := by
  simp only [round, unbounded, shift, Nat.div_one, Nat.shiftLeft_eq, Nat.one_mul]

theorem shift_mono {num other : Nat} (h : num ≤ other) : f.shift num ≤ f.shift other := by
  have hlog : num.log2 ≤ other.log2 := by
    rw [Nat.log2_eq_log_two, Nat.log2_eq_log_two]
    exact Nat.log_mono_right h
  exact Nat.sub_le_sub_right hlog _

/-- The magnitudes below a power of two end where those above it begin. -/
theorem unbounded_le (num : Nat) :
    f.unbounded num ≤ (f.shift num + 2) * 2 ^ f.fractionBits := by
  have hbits : num.log2 + 1 ≤ f.fractionBits + 1 + f.shift num := by
    unfold shift
    omega
  have hnum : num ≤ 2 ^ (f.fractionBits + 1) * 2 ^ f.shift num := by
    rw [← Nat.pow_add]
    exact Nat.le_of_lt (Nat.lt_of_lt_of_le Nat.lt_log2_self (Nat.pow_le_pow_right (by omega) hbits))
  have hrounded := divHalfEven_le (Nat.two_pow_pos (f.shift num)) hnum
  unfold unbounded
  rw [Nat.pow_succ] at hrounded
  calc f.shift num * 2 ^ f.fractionBits + divHalfEven num (2 ^ f.shift num)
      ≤ f.shift num * 2 ^ f.fractionBits + 2 ^ f.fractionBits * 2 := by omega
    _ = (f.shift num + 2) * 2 ^ f.fractionBits := by ring

theorem le_unbounded {num : Nat} (h : 0 < f.shift num) :
    (f.shift num + 1) * 2 ^ f.fractionBits ≤ f.unbounded num := by
  have hbits : f.fractionBits + f.shift num = num.log2 := by
    unfold shift at h ⊢
    omega
  have hpositive : num ≠ 0 := by
    rintro rfl
    simp [shift] at h
  have hnum : 2 ^ f.fractionBits * 2 ^ f.shift num ≤ num := by
    rw [← Nat.pow_add, hbits]
    exact Nat.log2_self_le hpositive
  have hquotient : 2 ^ f.fractionBits ≤ num / 2 ^ f.shift num :=
    (Nat.le_div_iff_mul_le (Nat.two_pow_pos _)).mpr hnum
  unfold unbounded
  calc (f.shift num + 1) * 2 ^ f.fractionBits
      = f.shift num * 2 ^ f.fractionBits + 2 ^ f.fractionBits := by ring
    _ ≤ f.shift num * 2 ^ f.fractionBits + divHalfEven num (2 ^ f.shift num) :=
        Nat.add_le_add_left (Nat.le_trans hquotient div_le_divHalfEven) _

theorem unbounded_mono {num other : Nat} (h : num ≤ other) :
    f.unbounded num ≤ f.unbounded other := by
  rcases Nat.lt_or_eq_of_le (f.shift_mono h) with hless | hsame
  · calc f.unbounded num ≤ (f.shift num + 2) * 2 ^ f.fractionBits := f.unbounded_le num
      _ ≤ (f.shift other + 1) * 2 ^ f.fractionBits := Nat.mul_le_mul_right _ (by omega)
      _ ≤ f.unbounded other := f.le_unbounded (Nat.zero_lt_of_lt hless)
  · unfold unbounded
    rw [← hsame]
    exact Nat.add_le_add_left (divHalfEven_mono h) _

/-- More units never have a lesser magnitude. -/
theorem round_mono {num other : Nat} (h : num ≤ other) : f.round num 1 ≤ f.round other 1 := by
  rw [round_one, round_one]
  exact min_le_min_right _ (f.unbounded_mono h)

end BinaryFormat

namespace Double

variable {negative : Bool} {magnitude : Nat}

theorem infinity_lt_signWeight :
    BinaryFormat.double.infinity < BinaryFormat.double.signWeight := by
  decide

theorem toNat_ofParts (h : magnitude ≤ BinaryFormat.double.infinity) :
    (ofParts negative magnitude).bits.toNat =
      (if negative then BinaryFormat.double.signWeight else 0) + magnitude := by
  have hweight : BinaryFormat.double.signWeight = 2 ^ 63 := by decide
  have hbelow := infinity_lt_signWeight
  simp only [ofParts, UInt64.toNat_ofNat']
  apply Nat.mod_eq_of_lt
  split <;> omega

theorem magnitude_ofParts (h : magnitude ≤ BinaryFormat.double.infinity) :
    (ofParts negative magnitude).magnitude = magnitude := by
  have hbelow := infinity_lt_signWeight
  unfold Double.magnitude
  rw [toNat_ofParts h]
  cases negative with
  | true => simpa using Nat.mod_eq_of_lt (by omega)
  | false => simpa using Nat.mod_eq_of_lt (by omega)

theorem isNegative_ofParts (h : magnitude ≤ BinaryFormat.double.infinity) :
    (ofParts negative magnitude).isNegative = negative := by
  have hbelow := infinity_lt_signWeight
  unfold isNegative
  rw [toNat_ofParts h]
  cases negative with
  | true => simp
  | false => simpa using Nat.lt_of_le_of_lt h hbelow

theorem isNaN_ofParts (h : magnitude ≤ BinaryFormat.double.infinity) :
    (ofParts negative magnitude).isNaN = false := by
  unfold isNaN
  rw [magnitude_ofParts h]
  simpa using h

theorem isNaN_ofInt (n : Int) : (ofInt n).isNaN = false :=
  isNaN_ofParts (BinaryFormat.round_le_infinity _ _ _)

/-- Widening keeps what is not a number apart from the numbers. -/
theorem isNaN_ofSingle (x : Single) : (ofSingle x).isNaN = x.isNaN := by
  have hnan : nan.isNaN = true := by decide
  unfold ofSingle
  cases x.isNaN with
  | true => exact hnan
  | false =>
      cases x.isFinite with
      | true => exact isNaN_ofParts (BinaryFormat.round_le_infinity _ _ _)
      | false => exact isNaN_ofParts (Nat.le_refl _)

theorem rank_ofInt (n : Int) :
    (ofInt n).rank =
      if n < 0 then -(BinaryFormat.double.round (n.natAbs * one) 1 : Int)
      else BinaryFormat.double.round (n.natAbs * one) 1 := by
  have hbound := BinaryFormat.round_le_infinity .double (n.natAbs * one) 1
  unfold rank ofInt ofUnits
  rw [isNegative_ofParts hbound, magnitude_ofParts hbound]
  simp only [decide_eq_true_eq]

/-- The nearest doubles of two integers are in the order of the integers, or the same. -/
theorem rank_ofInt_mono {m n : Int} (h : m ≤ n) : (ofInt m).rank ≤ (ofInt n).rank := by
  have hround {a b : Nat} (hab : a ≤ b) :
      BinaryFormat.double.round (a * one) 1 ≤ BinaryFormat.double.round (b * one) 1 :=
    BinaryFormat.double.round_mono (Nat.mul_le_mul_right one hab)
  rw [rank_ofInt, rank_ofInt]
  split_ifs with hm hn hn
  · have hmore := hround (show n.natAbs ≤ m.natAbs by omega)
    omega
  · omega
  · omega
  · have hmore := hround (show m.natAbs ≤ n.natAbs by omega)
    omega

end Double

end JoinEngine
