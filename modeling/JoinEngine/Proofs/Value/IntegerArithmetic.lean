import JoinEngine.Value.Arithmetic

/-!
Arithmetic on integers of two widths, seen from the integers themselves. Two values with integers
in them give the exact result at the wider of their widths, or are refused; they are refused for
a zero divisor, for a result outside the width, and for the remainder of the least integer of the
width by minus one, whose quotient is outside.
-/

namespace JoinEngine

inductive IntWidth where
  | narrow
  | wide
  deriving DecidableEq

namespace IntWidth

/-- The least integer that is too large, two to the power of 31 or 63. -/
def bound : IntWidth → Int
  | narrow => 2147483648
  | wide => 9223372036854775808

/-- The integer has a representation of this width in two's complement. -/
def Fits (w : IntWidth) (n : Int) : Prop := -w.bound ≤ n ∧ n < w.bound

instance (w : IntWidth) (n : Int) : Decidable (w.Fits n) := inferInstanceAs (Decidable (_ ∧ _))

def join : IntWidth → IntWidth → IntWidth
  | narrow, narrow => narrow
  | _, _ => wide

def value : IntWidth → Int → Value
  | narrow, n => .int32 (Int32.ofInt n)
  | wide, n => .int64 (Int64.ofInt n)

theorem bound_pos (w : IntWidth) : 0 < w.bound := by
  cases w <;> decide

theorem Fits.left {w : IntWidth} {n : Int} (h : w.Fits n) (v : IntWidth) : (w.join v).Fits n := by
  have hbound : w.bound ≤ (w.join v).bound := by
    cases w <;> cases v <;> decide
  unfold Fits at *
  omega

theorem join_comm (w v : IntWidth) : w.join v = v.join w := by
  cases w <;> cases v <;> rfl

theorem Fits.right {w : IntWidth} {n : Int} (h : w.Fits n) (v : IntWidth) :
    (v.join w).Fits n := by
  rw [join_comm]
  exact h.left v

section

variable {w : IntWidth} {x y : Int}

/-- A quotient fits, save that of the least integer by minus one. -/
theorem fits_tdiv_iff (hx : w.Fits x) :
    w.Fits (x.tdiv y) ↔ ¬ (x = -w.bound ∧ y = -1) := by
  have hbound := w.bound_pos
  unfold Fits at *
  by_cases hminus : y = -1
  · subst hminus
    rw [Int.tdiv_neg, Int.tdiv_one]
    omega
  · have hsmaller := Int.natAbs_tdiv_le_natAbs x y
    have hlargest : x.tdiv y ≠ w.bound := by
      intro hlarge
      -- a quotient as large as that has a divisor of magnitude one
      have hself : x.natAbs / y.natAbs = x.natAbs := by
        have hquotient := Int.natAbs_tdiv x y
        change _ = x.natAbs / y.natAbs at hquotient
        omega
      rcases Nat.div_eq_self.mp hself with hzero | hone
      · omega
      · obtain rfl : y = 1 := by omega
        rw [Int.tdiv_one] at hlarge
        omega
    omega

theorem fits_tmod (hy : w.Fits y) (hzero : y ≠ 0) : w.Fits (x.tmod y) := by
  have hmagnitude := Int.natAbs_tmod x y
  have hless : x.natAbs % y.natAbs < y.natAbs := Nat.mod_lt _ (by omega)
  unfold Fits at *
  omega

end

end IntWidth

namespace ArithmeticOp

/-- The exact result on integers, quotients being truncated toward zero; a zero divisor gives
none. -/
def exactResult (op : ArithmeticOp) (x y : Int) : Option Int :=
  match op with
  | add => some (x + y)
  | sub => some (x - y)
  | mul => some (x * y)
  | div => if y = 0 then none else some (x.tdiv y)
  | mod => if y = 0 then none else some (x.tmod y)

/-- Why an operation on two integers is refused at a width. -/
inductive Refuses (op : ArithmeticOp) (w : IntWidth) (x y : Int) : Prop
  | zeroDivisor (hdivides : op.divides = true) (hzero : y = 0)
  | outside {n : Int} (hresult : op.exactResult x y = some n) (houtside : ¬ w.Fits n)
  | leastByMinusOne (hmod : op = .mod) (hleast : x = -w.bound) (hminus : y = -1)

section

variable {op : ArithmeticOp} {w : IntWidth} {x y : Int}

theorem kept_of_fits {n : Int} (h : w.Fits n) :
    (if -w.bound ≤ n ∧ n ≤ w.bound - 1 then some n else none) = some n :=
  if_pos ⟨h.1, Int.le_sub_one_of_lt h.2⟩

theorem dropped_of_not_fits {n : Int} (h : ¬ w.Fits n) :
    (if -w.bound ≤ n ∧ n ≤ w.bound - 1 then some n else none) = none :=
  if_neg fun hn => h ⟨hn.1, Int.lt_of_le_sub_one hn.2⟩

theorem onIntegers_of_refuses (hx : w.Fits x) (hy : w.Fits y) (h : op.Refuses w x y) :
    op.onIntegers (-w.bound) (w.bound - 1) x y = none := by
  cases op with
  | add | sub | mul =>
      rcases h with ⟨hdivides, -⟩ | ⟨hresult, houtside⟩ | ⟨hmod, -, -⟩
      · cases hdivides
      · obtain rfl := Option.some.inj hresult
        exact dropped_of_not_fits houtside
      · cases hmod
  | div =>
      by_cases hzero : y = 0
      · exact if_pos hzero
      rcases h with ⟨-, hdivisor⟩ | ⟨hresult, houtside⟩ | ⟨hmod, -, -⟩
      · exact absurd hdivisor hzero
      · obtain rfl := Option.some.inj ((if_neg hzero).symm.trans hresult)
        exact (if_neg hzero).trans (dropped_of_not_fits houtside)
      · cases hmod
  | mod =>
      by_cases hzero : y = 0
      · exact if_pos hzero
      rcases h with ⟨-, hdivisor⟩ | ⟨hresult, houtside⟩ | ⟨-, hleast, hminus⟩
      · exact absurd hdivisor hzero
      · obtain rfl := Option.some.inj ((if_neg hzero).symm.trans hresult)
        exact absurd (IntWidth.fits_tmod hy hzero) houtside
      · have hquotient : ¬ w.Fits (x.tdiv y) :=
          fun hfits => (IntWidth.fits_tdiv_iff hx).mp hfits ⟨hleast, hminus⟩
        exact (if_neg hzero).trans (congrArg (Option.map _) (dropped_of_not_fits hquotient))

theorem onIntegers_of_not_refuses (hx : w.Fits x) (h : ¬ op.Refuses w x y) :
    ∃ n, op.exactResult x y = some n ∧ w.Fits n ∧
      op.onIntegers (-w.bound) (w.bound - 1) x y = some n := by
  have hfits {n : Int} (hresult : op.exactResult x y = some n) : w.Fits n :=
    Classical.byContradiction fun houtside => h (.outside hresult houtside)
  cases op with
  | add | sub | mul => exact ⟨_, rfl, hfits rfl, kept_of_fits (hfits rfl)⟩
  | div =>
      have hzero : y ≠ 0 := fun hdivisor => h (.zeroDivisor rfl hdivisor)
      have hresult : exactResult .div x y = some (x.tdiv y) := if_neg hzero
      exact ⟨_, hresult, hfits hresult, (if_neg hzero).trans (kept_of_fits (hfits hresult))⟩
  | mod =>
      have hzero : y ≠ 0 := fun hdivisor => h (.zeroDivisor rfl hdivisor)
      have hresult : exactResult .mod x y = some (x.tmod y) := if_neg hzero
      -- the remainder always fits; it is the quotient beside it that may not
      have hquotient : w.Fits (x.tdiv y) :=
        (IntWidth.fits_tdiv_iff hx).mpr fun hleast => h (.leastByMinusOne rfl hleast.1 hleast.2)
      exact ⟨_, hresult, hfits hresult,
        (if_neg hzero).trans (congrArg (Option.map _) (kept_of_fits hquotient))⟩

end

end ArithmeticOp

namespace Value

/-- The integer in a value, with its width. -/
def integer? : Value → Option (IntWidth × Int)
  | int32 n => some (.narrow, n.toInt)
  | int64 n => some (.wide, n.toInt)
  | _ => none

theorem integer?_value {w : IntWidth} {n : Int} (h : w.Fits n) :
    (w.value n).integer? = some (w, n) := by
  cases w with
  | narrow =>
      exact congrArg (fun m => some (IntWidth.narrow, m)) (Int32.toInt_ofInt_of_le h.1 h.2)
  | wide => exact congrArg (fun m => some (IntWidth.wide, m)) (Int64.toInt_ofInt_of_le h.1 h.2)

section

variable {a b : Value} {w v : IntWidth} {x y : Int}

theorem integer?_eq_some (h : a.integer? = some (w, x)) :
    (∃ n : Int32, a = .int32 n ∧ w = .narrow ∧ x = n.toInt) ∨
      ∃ n : Int64, a = .int64 n ∧ w = .wide ∧ x = n.toInt := by
  cases a with
  | int32 n =>
      obtain ⟨rfl, rfl⟩ := Prod.mk.inj (Option.some.inj h)
      exact Or.inl ⟨n, rfl, rfl, rfl⟩
  | int64 n =>
      obtain ⟨rfl, rfl⟩ := Prod.mk.inj (Option.some.inj h)
      exact Or.inr ⟨n, rfl, rfl, rfl⟩
  | _ => cases h

theorem fits_of_integer? (h : a.integer? = some (w, x)) : w.Fits x := by
  obtain ⟨n, -, rfl, rfl⟩ | ⟨n, -, rfl, rfl⟩ := integer?_eq_some h
  · exact ⟨n.le_toInt, n.toInt_lt⟩
  · exact ⟨n.le_toInt, n.toInt_lt⟩

/-- Integers are computed with at the wider of their widths, where a narrow one keeps its
value. -/
theorem arithmetic_eq_onIntegers (op : ArithmeticOp) (ha : a.integer? = some (w, x))
    (hb : b.integer? = some (v, y)) :
    a.arithmetic op b =
      match op.onIntegers (-(w.join v).bound) ((w.join v).bound - 1) x y with
      | some n => .ok ((w.join v).value n)
      | none => .error (.evaluation op.integerFault) := by
  obtain ⟨n, rfl, rfl, rfl⟩ | ⟨n, rfl, rfl, rfl⟩ := integer?_eq_some ha
  · obtain ⟨m, rfl, rfl, rfl⟩ | ⟨m, rfl, rfl, rfl⟩ := integer?_eq_some hb
    · rfl
    · rw [← n.toInt_toInt64]
      rfl
  · obtain ⟨m, rfl, rfl, rfl⟩ | ⟨m, rfl, rfl, rfl⟩ := integer?_eq_some hb
    · rw [← m.toInt_toInt64]
      rfl
    · rfl

/-- What is refused at the wider of the two widths fails. -/
theorem arithmetic_of_refuses {op : ArithmeticOp} (ha : a.integer? = some (w, x))
    (hb : b.integer? = some (v, y)) (h : op.Refuses (w.join v) x y) :
    a.arithmetic op b = .error (.evaluation op.integerFault) := by
  have hx := (fits_of_integer? ha).left v
  have hy := (fits_of_integer? hb).right w
  rw [arithmetic_eq_onIntegers op ha hb, ArithmeticOp.onIntegers_of_refuses hx hy h]

/-- What is not refused has the exact result, at the wider of the two widths. -/
theorem arithmetic_of_not_refuses {op : ArithmeticOp} (ha : a.integer? = some (w, x))
    (hb : b.integer? = some (v, y)) (h : ¬ op.Refuses (w.join v) x y) :
    ∃ n c, op.exactResult x y = some n ∧ c.integer? = some (w.join v, n) ∧
      a.arithmetic op b = .ok c := by
  have hx := (fits_of_integer? ha).left v
  obtain ⟨n, hexact, hfits, hresult⟩ := ArithmeticOp.onIntegers_of_not_refuses hx h
  refine ⟨n, _, hexact, integer?_value hfits, ?_⟩
  rw [arithmetic_eq_onIntegers op ha hb, hresult]

end

end Value

end JoinEngine
