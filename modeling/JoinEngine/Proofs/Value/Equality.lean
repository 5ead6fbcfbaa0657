import JoinEngine.Key
import JoinEngine.Value.Compare

/-!
SQL equality, and the atoms and feeds that stand for values in keys. Comparing the other way
round mirrors the relation of two values, so equality is symmetric. Values that are equal to SQL
have the same atom, whatever their numeric kinds: the atom of a number is made of the double that
mixed comparison uses, and two doubles of one rank differ at most in the sign of a zero. The feed
of a value is a function of its atom, so equal values feed a hasher alike.
-/

namespace JoinEngine

namespace Double

/-- The bits are the magnitude, with the sign's weight on top of it for a negative number. -/
theorem bits_toNat (x : Double) :
    x.bits.toNat = (if x.isNegative then BinaryFormat.double.signWeight else 0) + x.magnitude := by
  have hweight : BinaryFormat.double.signWeight = 0x8000000000000000 := by decide
  have hbits := x.bits.toNat_lt
  simp only [isNegative, magnitude, hweight, decide_eq_true_eq]
  split <;> omega

/-- Numbers of one rank are the same, unless both are zeros. -/
theorem bits_eq_of_rank_eq {x y : Double} (h : x.rank = y.rank) (hzero : x.isZero = false) :
    x.bits = y.bits := by
  have hx := x.bits_toNat
  have hy := y.bits_toNat
  have hmagnitude : x.magnitude ≠ 0 := by simpa [isZero] using hzero
  apply UInt64.toNat_inj.mp
  unfold rank at h
  split at h <;> split at h <;> simp only [*] at hx hy <;> omega

theorem isZero_eq_of_rank_eq {x y : Double} (h : x.rank = y.rank) : x.isZero = y.isZero := by
  have hiff : x.magnitude = 0 ↔ y.magnitude = 0 := by
    unfold rank at h
    split at h <;> split at h <;> omega
  apply Bool.eq_iff_iff.mpr
  simpa [isZero] using hiff

theorem compare?_swap (x y : Double) : y.compare? x = (x.compare? y).map Ordering.swap := by
  unfold compare?
  rw [Bool.or_comm]
  split
  · rfl
  · rw [Std.OrientedOrd.eq_swap (a := y.rank)]
    rfl

end Double

namespace KeyAtom

/-- Doubles that compare as equal stand for the same atom. -/
theorem numberBits_eq_of_compare {x y : Double} (h : x.compare? y = some .eq) :
    numberBits x = numberBits y := by
  obtain ⟨hnan, hrank⟩ : (x.isNaN = false ∧ y.isNaN = false) ∧ x.rank = y.rank := by
    simpa [Double.compare?, Std.compare_eq_iff_eq] using h
  have hzero := Double.isZero_eq_of_rank_eq hrank
  unfold numberBits
  rw [hnan.1, hnan.2, ← hzero]
  cases hx : x.isZero with
  | true => rfl
  | false => exact Double.bits_eq_of_rank_eq hrank hx

end KeyAtom

theorem lexCompare_swap (a b : List Nat) : lexCompare b a = (lexCompare a b).swap := by
  induction a generalizing b with
  | nil => cases b <;> rfl
  | cons x xs ih =>
      cases b with
      | nil => rfl
      | cons y ys =>
          simp only [lexCompare, Ordering.swap_then, ih ys]
          rw [Std.OrientedOrd.eq_swap (a := y)]

theorem eq_of_lexCompare_eq {a b : List Nat} (h : lexCompare a b = .eq) : a = b := by
  induction a generalizing b with
  | nil =>
      cases b with
      | nil => rfl
      | cons => cases h
  | cons x xs ih =>
      cases b with
      | nil => cases h
      | cons y ys =>
          have hparts : compare x y = .eq ∧ lexCompare xs ys = .eq := by
            simpa only [lexCompare, Ordering.then_eq_eq] using h
          rw [Nat.compare_eq_eq.mp hparts.1, ih hparts.2]

namespace Value

theorem isNull_iff {v : Value} : v.isNull = true ↔ v = .null := by
  cases v <;> simp [isNull]

def Relation.swap : Relation → Relation
  | .ordered o => .ordered o.swap
  | .unordered => .unordered
  | .incompatible => .incompatible

def relateNumbers (a b : Value) : Relation :=
  match a.int?, b.int? with
  | some a, some b => .ordered (compare a.toInt b.toInt)
  | _, _ => relateDoubles a.double? b.double?

theorem relateDoubles_swap (x y : Option Double) :
    relateDoubles y x = (relateDoubles x y).swap := by
  cases x with
  | none => cases y <;> rfl
  | some x =>
      cases y with
      | none => rfl
      | some y =>
          simp only [relateDoubles, Double.compare?_swap x y]
          cases x.compare? y <;> rfl

theorem relateNumbers_swap (a b : Value) : relateNumbers b a = (relateNumbers a b).swap := by
  unfold relateNumbers
  cases a.int? with
  | none => cases b.int? <;> exact relateDoubles_swap _ _
  | some m =>
      cases b.int? with
      | none => exact relateDoubles_swap _ _
      | some n =>
          simp only [Relation.swap]
          rw [Std.OrientedOrd.eq_swap (a := n.toInt)]

/-- The ways in which two values can be compared: within a class that has its own order, or as
numbers, which leaves values of unrelated types incompatible. -/
inductive Comparison : Value → Value → Prop
  | bools (a b : Bool) : Comparison (bool a) (bool b)
  | strings (a b : String) : Comparison (string a) (string b)
  | bytes (a b : List UInt8) : Comparison (bytes a) (bytes b)
  | timestamps (a b : Int64) : Comparison (timestamp a) (timestamp b)
  | numbers {a b : Value} (h : a.relate b = a.relateNumbers b)
      (hswap : b.relate a = b.relateNumbers a) : Comparison a b

theorem comparison (a b : Value) : Comparison a b := by
  cases a <;> cases b
  all_goals first
    | exact .bools _ _
    | exact .strings _ _
    | exact .bytes _ _
    | exact .timestamps _ _
    | exact .numbers rfl rfl

theorem relate_swap (a b : Value) : b.relate a = (a.relate b).swap := by
  cases comparison a b with
  | bools a b => exact congrArg Relation.ordered Std.OrientedOrd.eq_swap
  | strings a b => exact congrArg Relation.ordered (lexCompare_swap _ _)
  | bytes a b => exact congrArg Relation.ordered (lexCompare_swap _ _)
  | timestamps a b => exact congrArg Relation.ordered Std.OrientedOrd.eq_swap
  | numbers h hswap => rw [h, hswap, relateNumbers_swap]

theorem swap_eq_equal_iff (r : Relation) : r.swap = .ordered .eq ↔ r = .ordered .eq := by
  cases r with
  | ordered o => cases o <;> simp [Relation.swap]
  | _ => simp [Relation.swap]

theorem sqlEquals_eq_true_iff (a b : Value) :
    a.sqlEquals b = .true ↔
      a.isNull = false ∧ b.isNull = false ∧ a.relate b = .ordered .eq := by
  unfold sqlEquals Ternary.ofBool
  cases a.isNull <;> cases b.isNull <;> simp

/-- Values that SQL takes for equal are the same, unless they are compared as numbers. -/
theorem eq_or_relateNumbers_of_sqlEquals {a b : Value} (h : a.sqlEquals b = .true) :
    a = b ∨ a.relateNumbers b = .ordered .eq := by
  obtain ⟨-, -, hrelate⟩ := (sqlEquals_eq_true_iff a b).mp h
  cases comparison a b with
  | bools a b =>
      have hab : a.toNat = b.toNat := by
        simpa [relate, Std.compare_eq_iff_eq] using hrelate
      cases a <;> cases b <;> simp at hab ⊢
  | strings a b =>
      have hab : a.toList.map Char.toNat = b.toList.map Char.toNat :=
        eq_of_lexCompare_eq (by simpa [relate] using hrelate)
      have hchars := List.map_inj_right (fun _ _ => Char.toNat_inj.mp) |>.mp hab
      rw [String.toList_inj.mp hchars]
      exact Or.inl rfl
  | bytes a b =>
      have hab : a.map UInt8.toNat = b.map UInt8.toNat :=
        eq_of_lexCompare_eq (by simpa [relate] using hrelate)
      rw [List.map_inj_right (fun _ _ => UInt8.toNat_inj.mp) |>.mp hab]
      exact Or.inl rfl
  | timestamps a b =>
      have hab : a.toInt = b.toInt := by
        simpa [relate, Std.compare_eq_iff_eq] using hrelate
      rw [Int64.toInt_inj.mp hab]
      exact Or.inl rfl
  | numbers hnumbers _ => exact Or.inr (hnumbers ▸ hrelate)

/-- Equality is symmetric, unknown answers included. -/
theorem sqlEquals_comm (a b : Value) : a.sqlEquals b = b.sqlEquals a := by
  unfold sqlEquals
  simp only [relate_swap a b, swap_eq_equal_iff]
  rw [Bool.or_comm]

end Value

namespace KeyAtom

/-- The atom of a number is made of its double. -/
theorem ofValue_eq_number {v : Value} {x : Double} (h : v.double? = some x) :
    ofValue v = some (.number (numberBits x)) := by
  cases v <;> simp_all [Value.double?, ofValue]

theorem double?_of_int? {v : Value} {n : Int64} (h : v.int? = some n) :
    v.double? = some (Double.ofInt n.toInt) := by
  cases v <;> simp_all [Value.double?, Value.int?]
  subst h
  rw [Int32.toInt_toInt64]

theorem ofValue_eq_of_relateNumbers {a b : Value} (h : a.relateNumbers b = .ordered .eq) :
    ofValue a = ofValue b := by
  unfold Value.relateNumbers at h
  split at h
  next m n hm hn =>
    have hmn : m.toInt = n.toInt := by simpa [Std.compare_eq_iff_eq] using h
    rw [ofValue_eq_number (double?_of_int? hm), ofValue_eq_number (double?_of_int? hn), hmn]
  next =>
    unfold Value.relateDoubles at h
    split at h
    next x y hx hy =>
      have hxy : x.compare? y = some .eq := by
        cases hc : x.compare? y <;> simp_all
      rw [ofValue_eq_number hx, ofValue_eq_number hy, numberBits_eq_of_compare hxy]
    next => cases h

/-- Values that SQL takes for equal share their atom. -/
theorem ofValue_eq_of_sqlEquals {a b : Value} (h : a.sqlEquals b = .true) :
    ofValue a = ofValue b := by
  rcases Value.eq_or_relateNumbers_of_sqlEquals h with rfl | hnumbers
  · rfl
  · exact ofValue_eq_of_relateNumbers hnumbers

def feed : Option KeyAtom → List HashPiece
  | none => [.byte 0]
  | some (.bool b) => [.byte 1, .byte (if b then 1 else 0)]
  | some (.number bits) => [.byte 2, .word bits]
  | some (.text s) => [.byte 3, .text s]
  | some (.bytes b) => [.byte 4, .length b.length, .bytes b]
  | some (.timestamp t) => [.byte 5, .signed t]

/-- Feeds are kind by kind what atoms are. Every number has a double, so the pattern that stands
in for a missing one is never fed. -/
theorem feed_ofValue (v : Value) : feed (ofValue v) = v.feed := by
  cases v <;> rfl

end KeyAtom

theorem keyFeed_eq_atoms (key : List Value) :
    keyFeed key = (keyAtoms key).flatMap KeyAtom.feed := by
  simp only [keyFeed, keyAtoms, List.flatMap_map, KeyAtom.feed_ofValue]

theorem hashKey_eq_atoms [KeyHasher] (key : List Value) :
    hashKey key = KeyHasher.hash ((keyAtoms key).flatMap KeyAtom.feed) :=
  congrArg KeyHasher.hash (keyFeed_eq_atoms key)

theorem Ternary.isTrue_iff (t : Ternary) : t.isTrue = Bool.true ↔ t = .true := by
  cases t <;> decide

/-- Keys that are equal component by component have the same atoms and hold no null. -/
theorem keys_of_all_equal {as bs : List Value} (hlength : as.length = bs.length)
    (h : (as.zip bs).all (fun (a, b) => (a.sqlEquals b).isTrue) = true) :
    keyAtoms as = keyAtoms bs ∧ as.any Value.isNull = false ∧ bs.any Value.isNull = false := by
  induction as generalizing bs with
  | nil =>
      cases bs with
      | nil => exact ⟨rfl, rfl, rfl⟩
      | cons => cases hlength
  | cons a as ih =>
      cases bs with
      | nil => cases hlength
      | cons b bs =>
          rw [List.zip_cons_cons, List.all_cons, Bool.and_eq_true, Ternary.isTrue_iff] at h
          obtain ⟨hatoms, has, hbs⟩ := ih (Nat.succ.inj hlength) h.2
          obtain ⟨ha, hb, -⟩ := (Value.sqlEquals_eq_true_iff a b).mp h.1
          refine ⟨?_, by simp [ha, has], by simp [hb, hbs]⟩
          rw [keyAtoms, List.map_cons, KeyAtom.ofValue_eq_of_sqlEquals h.1]
          exact congrArg _ hatoms

end JoinEngine
