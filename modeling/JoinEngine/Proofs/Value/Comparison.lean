import JoinEngine.Proofs.Condition.Meaning
import JoinEngine.Proofs.Number.Rounding

/-!
The six comparison operators read one relation of two values. Where neither value is null, an
operator's answer depends on the relation alone, so the laws that tie the operators together are
laws of relations: the relation of two values of one class is an order, unless one of them is not a
number, and values of two classes have none. Less-than is transitive throughout. Numbers of mixed
kinds are compared after rounding, which may make integers the same but never turns them round.
-/

namespace JoinEngine

/-- The operator that says the same with its arguments in the other order. -/
def CompareOp.mirrored : CompareOp → CompareOp
  | .eq => .eq
  | .notEq => .notEq
  | .lt => .gt
  | .ltEq => .gtEq
  | .gt => .lt
  | .gtEq => .ltEq

/-- The operators of which at most one holds of two values. -/
def CompareOp.orderings : List CompareOp := [.lt, .eq, .gt]

def JoinError.withTypesSwapped : JoinError → JoinError
  | .typeMismatch left right => .typeMismatch right left
  | e => e

def CompareOp.answer (op : CompareOp) (mismatch : JoinError) :
    Value.Relation → Except JoinError Ternary
  | .ordered o => .ok (.ofBool (op.accepts o))
  | .unordered => .ok (.ofBool (decide (op = .notEq)))
  | .incompatible =>
    match op with
    | .eq => .ok .false
    | .notEq => .ok .true
    | _ => .error mismatch

namespace CompareOp

variable {op : CompareOp} {mismatch e : JoinError} {r : Value.Relation}

theorem answer_notEq : notEq.answer mismatch r = (eq.answer mismatch r).map Ternary.not := by
  cases r with
  | ordered o => cases o <;> rfl
  | unordered | incompatible => rfl

theorem answer_ltEq :
    ltEq.answer mismatch r = (do return (← lt.answer mismatch r).or (← eq.answer mismatch r)) := by
  cases r with
  | ordered o => cases o <;> rfl
  | unordered | incompatible => rfl

theorem answer_gtEq :
    gtEq.answer mismatch r = (do return (← gt.answer mismatch r).or (← eq.answer mismatch r)) := by
  cases r with
  | ordered o => cases o <;> rfl
  | unordered | incompatible => rfl

theorem answer_swap : op.answer mismatch r.swap = op.mirrored.answer mismatch r := by
  cases r with
  | ordered o => cases op <;> cases o <;> rfl
  | unordered | incompatible => cases op <;> rfl

theorem answer_mapError (f : JoinError → JoinError) :
    (op.answer mismatch r).mapError f = op.answer (f mismatch) r := by
  cases r with
  | ordered | unordered => rfl
  | incompatible => cases op <;> rfl

theorem answer_eq_error_iff :
    op.answer mismatch r = .error e ↔
      op ≠ .eq ∧ op ≠ .notEq ∧ r = .incompatible ∧ mismatch = e := by
  cases r with
  | ordered | unordered => simp [answer]
  | incompatible => cases op <;> simp [answer]

theorem answer_ne_unknown : op.answer mismatch r ≠ .ok .unknown := by
  have hdecided (p : Bool) : Ternary.ofBool p ≠ .unknown := by
    cases p <;> decide
  cases r with
  | ordered | unordered => simp [answer, hdecided]
  | incompatible => cases op <;> simp [answer]

theorem answer_lt_eq_true_iff : lt.answer mismatch r = .ok .true ↔ r = .ordered .lt := by
  cases r with
  | ordered o => cases o <;> simp [answer, accepts, Ternary.ofBool]
  | unordered | incompatible => simp [answer, Ternary.ofBool]

end CompareOp

/-- The classes of values that are compared with each other. -/
inductive TypeClass where
  | boolean
  | number
  | string
  | bytes
  | timestamp
  deriving DecidableEq

namespace Value

def class? : Value → Option TypeClass
  | null => none
  | bool _ => some .boolean
  | int32 _ => some .number
  | int64 _ => some .number
  | float32 _ => some .number
  | float64 _ => some .number
  | string _ => some .string
  | bytes _ => some .bytes
  | timestamp _ => some .timestamp

def isNaN : Value → Bool
  | float32 x => x.isNaN
  | float64 x => x.isNaN
  | _ => false

section

variable {a b c : Value}

theorem compareBy_of_null (op : CompareOp) (h : (a.isNull || b.isNull) = true) :
    a.compareBy op b = .ok .unknown := by
  unfold compareBy
  rw [if_pos h]

theorem compareBy_eq_answer (op : CompareOp) (h : (a.isNull || b.isNull) = false) :
    a.compareBy op b = op.answer (.typeMismatch a.typeName b.typeName) (a.relate b) := by
  unfold compareBy
  rw [h, if_neg Bool.false_ne_true]
  cases a.relate b with
  | ordered | unordered => rfl
  | incompatible => cases op <;> rfl

theorem isNull_eq_false_iff {v : Value} : v.isNull = false ↔ ∃ k, v.class? = some k := by
  cases v <;> simp [isNull, class?]

theorem anyNull_of_class? {k l : TypeClass} (ha : a.class? = some k) (hb : b.class? = some l) :
    (a.isNull || b.isNull) = false := by
  rw [Bool.or_eq_false_iff]
  exact ⟨isNull_eq_false_iff.mpr ⟨k, ha⟩, isNull_eq_false_iff.mpr ⟨l, hb⟩⟩

theorem class?_eq_number_iff {v : Value} : v.class? = some .number ↔ v.double?.isSome := by
  cases v <;> simp [class?, double?]

/-- The double of a number is a number exactly if the number is. -/
theorem isNaN_of_double? {v : Value} {x : Double} (h : v.double? = some x) :
    x.isNaN = v.isNaN := by
  cases v with
  | int32 n =>
      obtain rfl := Option.some.inj h
      exact Double.isNaN_ofInt _
  | int64 n =>
      obtain rfl := Option.some.inj h
      exact Double.isNaN_ofInt _
  | float32 x =>
      obtain rfl := Option.some.inj h
      exact Double.isNaN_ofSingle x
  | float64 x =>
      obtain rfl := Option.some.inj h
      rfl
  | _ => cases h

theorem isNaN_of_int? {v : Value} {n : Int64} (h : v.int? = some n) : v.isNaN = false := by
  cases v with
  | int32 | int64 => rfl
  | _ => cases h

section

variable {x y : Double} (hx : a.double? = some x) (hy : b.double? = some y)

include hx hy

theorem relateNumbers_eq_unordered (h : (a.isNaN || b.isNaN) = true) :
    a.relateNumbers b = .unordered := by
  have hdoubles : relateDoubles (some x) (some y) = .unordered := by
    simp only [relateDoubles, Double.compare?, isNaN_of_double? hx, isNaN_of_double? hy, h, if_true]
  unfold relateNumbers
  split
  next m n hm hn => simp [isNaN_of_int? hm, isNaN_of_int? hn] at h
  next => rwa [hx, hy]

theorem relateNumbers_eq_ordered (h : (a.isNaN || b.isNaN) = false) :
    ∃ o, a.relateNumbers b = .ordered o := by
  have hdoubles : relateDoubles (some x) (some y) = .ordered (compare x.rank y.rank) := by
    simp [relateDoubles, Double.compare?, isNaN_of_double? hx, isNaN_of_double? hy, h]
  unfold relateNumbers
  split
  next m n _ _ => exact ⟨compare m.toInt n.toInt, rfl⟩
  next =>
    rw [hx, hy]
    exact ⟨_, hdoubles⟩

/-- A lesser double makes a lesser number, also of two integers. -/
theorem relateNumbers_eq_lt (h : (a.isNaN || b.isNaN) = false) (hless : x.rank < y.rank) :
    a.relateNumbers b = .ordered .lt := by
  unfold relateNumbers
  split
  next m n hm hn =>
    rw [KeyAtom.double?_of_int? hm, Option.some.injEq] at hx
    rw [KeyAtom.double?_of_int? hn, Option.some.injEq] at hy
    subst hx hy
    have hints : m.toInt < n.toInt := by
      by_contra hnot
      have := Double.rank_ofInt_mono (Int.not_lt.mp hnot)
      omega
    rw [Int.compare_eq_lt.mpr hints]
  next =>
    rw [hx, hy]
    simp [relateDoubles, Double.compare?, isNaN_of_double? hx, isNaN_of_double? hy, h,
      Int.compare_eq_lt.mpr hless]

end

/-- What is ordered as doubles is a pair of numbers, in the order of their ranks. -/
theorem doubles_of_relateDoubles {o : Ordering}
    (h : relateDoubles a.double? b.double? = .ordered o) :
    ∃ x y, a.double? = some x ∧ b.double? = some y ∧ (a.isNaN || b.isNaN) = false ∧
      compare x.rank y.rank = o := by
  unfold relateDoubles at h
  split at h
  next x y hx hy =>
    obtain ⟨hnan, horder⟩ :
        (x.isNaN = false ∧ y.isNaN = false) ∧ compare x.rank y.rank = o := by
      cases hcompare : x.compare? y with
      | none => simp [hcompare] at h
      | some found =>
          obtain rfl : found = o := by simpa [hcompare] using h
          simpa [Double.compare?] using hcompare
    refine ⟨x, y, hx, hy, ?_, horder⟩
    rw [← isNaN_of_double? hx, ← isNaN_of_double? hy, hnan.1, hnan.2]
    rfl
  next => cases h

/-- A lesser number has no greater double, and a lesser one if the two were compared as doubles. -/
theorem doubles_of_relateNumbers_lt (h : a.relateNumbers b = .ordered .lt) :
    ∃ x y, a.double? = some x ∧ b.double? = some y ∧ (a.isNaN || b.isNaN) = false ∧
      x.rank ≤ y.rank ∧ (a.int? = none ∨ b.int? = none → x.rank < y.rank) := by
  unfold relateNumbers at h
  split at h
  next m n hm hn =>
    have hints : m.toInt < n.toInt := Int.compare_eq_lt.mp (Relation.ordered.inj h)
    refine ⟨_, _, KeyAtom.double?_of_int? hm, KeyAtom.double?_of_int? hn, ?_, ?_, ?_⟩
    · rw [isNaN_of_int? hm, isNaN_of_int? hn]
      rfl
    · exact Double.rank_ofInt_mono (Int.le_of_lt hints)
    · rintro (hnone | hnone)
      · simp [hnone] at hm
      · simp [hnone] at hn
  next =>
    obtain ⟨x, y, hx, hy, hnan, hcompare⟩ := doubles_of_relateDoubles h
    have hless : x.rank < y.rank := Int.compare_eq_lt.mp hcompare
    exact ⟨x, y, hx, hy, hnan, Int.le_of_lt hless, fun _ => hless⟩

theorem relateNumbers_lt_trans (hab : a.relateNumbers b = .ordered .lt)
    (hbc : b.relateNumbers c = .ordered .lt) : a.relateNumbers c = .ordered .lt := by
  obtain ⟨x, y, hx, hy, hnanab, hxy, hstrict⟩ := doubles_of_relateNumbers_lt hab
  obtain ⟨y', z, hy', hz, hnanbc, hyz, hstrict'⟩ := doubles_of_relateNumbers_lt hbc
  obtain rfl : y = y' := by simpa [hy] using hy'
  have hnan : (a.isNaN || c.isNaN) = false := by
    rw [Bool.or_eq_false_iff] at hnanab hnanbc ⊢
    exact ⟨hnanab.1, hnanbc.2⟩
  -- of three integers the outer two are compared as integers, else one step is one of doubles
  by_cases hexact : a.int?.isSome ∧ b.int?.isSome ∧ c.int?.isSome
  · obtain ⟨ha, hb, hc⟩ := hexact
    obtain ⟨l, hl⟩ := Option.isSome_iff_exists.mp ha
    obtain ⟨m, hm⟩ := Option.isSome_iff_exists.mp hb
    obtain ⟨n, hn⟩ := Option.isSome_iff_exists.mp hc
    simp only [relateNumbers, hl, hm, hn, Relation.ordered.injEq, Int.compare_eq_lt] at hab hbc ⊢
    exact Int.lt_trans hab hbc
  · apply relateNumbers_eq_lt hx hz hnan
    by_cases hleft : a.int? = none ∨ b.int? = none
    · exact Int.lt_of_lt_of_le (hstrict hleft) hyz
    · have hright : b.int? = none ∨ c.int? = none := by
        simp only [not_or, ← ne_eq, Option.ne_none_iff_isSome] at hleft
        right
        by_contra hsome
        exact hexact ⟨hleft.1, hleft.2, Option.ne_none_iff_isSome.mp hsome⟩
      exact Int.lt_of_le_of_lt hxy (hstrict' hright)

end

end Value

theorem lexCompare_eq_compareLex (a b : List Nat) :
    lexCompare a b = List.compareLex compare a b := by
  induction a generalizing b with
  | nil => cases b <;> rfl
  | cons x xs ih =>
      cases b with
      | nil => rfl
      | cons y ys => rw [lexCompare, List.compareLex_cons_cons, ih ys]

theorem lexCompare_lt_trans {a b c : List Nat} (hab : lexCompare a b = .lt)
    (hbc : lexCompare b c = .lt) : lexCompare a c = .lt := by
  rw [lexCompare_eq_compareLex] at hab hbc ⊢
  exact Std.TransCmp.lt_trans hab hbc

namespace Value

variable {a b c : Value}

theorem int?_of_double?_eq_none (h : a.double? = none) : a.int? = none := by
  cases a <;> first | rfl | cases h

/-- A value that is no number is not compared as one. -/
theorem relateNumbers_of_no_double (h : a.double? = none ∨ b.double? = none) :
    a.relateNumbers b = .incompatible := by
  unfold relateNumbers relateDoubles
  rcases h with h | h
  · rw [h, int?_of_double?_eq_none h]
  · rw [h, int?_of_double?_eq_none h]
    cases a.int? <;> cases a.double? <;> rfl

theorem relate_of_numbers (ha : a.class? = some .number) (hb : b.class? = some .number) :
    a.relate b = a.relateNumbers b := by
  cases comparison a b with
  | bools | strings | bytes | timestamps => cases ha
  | numbers h _ => exact h

theorem relate_of_class_ne {k l : TypeClass} (ha : a.class? = some k) (hb : b.class? = some l)
    (h : k ≠ l) : a.relate b = .incompatible := by
  cases comparison a b with
  | bools | strings | bytes | timestamps => exact absurd (Option.some.inj (ha.symm.trans hb)) h
  | numbers hrelate _ =>
      rw [hrelate]
      apply relateNumbers_of_no_double
      by_contra hdoubles
      simp only [not_or, ← ne_eq, Option.ne_none_iff_isSome, ← class?_eq_number_iff, ha, hb,
        Option.some.injEq] at hdoubles
      exact h (hdoubles.1.trans hdoubles.2.symm)

theorem class?_of_isNaN {v : Value} (h : v.isNaN = true) : v.class? = some .number := by
  cases v <;> first | rfl | cases h

section

variable {k : TypeClass} (ha : a.class? = some k) (hb : b.class? = some k)

include ha hb

theorem relate_of_isNaN (h : (a.isNaN || b.isNaN) = true) : a.relate b = .unordered := by
  obtain rfl : k = .number := by
    rcases Bool.or_eq_true_iff.mp h with hnan | hnan
    · exact Option.some.inj (ha.symm.trans (class?_of_isNaN hnan))
    · exact Option.some.inj (hb.symm.trans (class?_of_isNaN hnan))
  obtain ⟨x, hx⟩ := Option.isSome_iff_exists.mp (class?_eq_number_iff.mp ha)
  obtain ⟨y, hy⟩ := Option.isSome_iff_exists.mp (class?_eq_number_iff.mp hb)
  rw [relate_of_numbers ha hb]
  exact relateNumbers_eq_unordered hx hy h

/-- Values of one class are ordered, what is not a number apart. -/
theorem exists_relate_eq_ordered (h : (a.isNaN || b.isNaN) = false) :
    ∃ o, a.relate b = .ordered o := by
  by_cases hk : k = .number
  · subst hk
    obtain ⟨x, hx⟩ := Option.isSome_iff_exists.mp (class?_eq_number_iff.mp ha)
    obtain ⟨y, hy⟩ := Option.isSome_iff_exists.mp (class?_eq_number_iff.mp hb)
    rw [relate_of_numbers ha hb]
    exact relateNumbers_eq_ordered hx hy h
  · cases a with
    | null => cases ha
    | int32 | int64 | float32 | float64 => exact absurd (Option.some.inj ha).symm hk
    | bool | string | bytes | timestamp =>
        -- the other value is of the same kind
        obtain rfl := Option.some.inj ha
        cases b <;> first | exact ⟨_, rfl⟩ | cases hb

end

theorem relate_lt_trans (hab : a.relate b = .ordered .lt) (hbc : b.relate c = .ordered .lt) :
    a.relate c = .ordered .lt := by
  have hrefused {v w : Value} (h : v.relate w = v.relateNumbers w) (hv : v.double? = none)
      (hless : v.relate w = .ordered .lt) : False := by
    rw [h, relateNumbers_of_no_double (Or.inl hv)] at hless
    cases hless
  cases comparison a b with
  | bools p q =>
      cases comparison (bool q) c with
      | bools _ r =>
          have hpq := Nat.compare_eq_lt.mp (Relation.ordered.inj hab)
          have hqr := Nat.compare_eq_lt.mp (Relation.ordered.inj hbc)
          exact congrArg _ (Nat.compare_eq_lt.mpr (Nat.lt_trans hpq hqr))
      | numbers h _ => exact (hrefused h rfl hbc).elim
  | strings s t =>
      cases comparison (string t) c with
      | strings _ u =>
          exact congrArg _
            (lexCompare_lt_trans (Relation.ordered.inj hab) (Relation.ordered.inj hbc))
      | numbers h _ => exact (hrefused h rfl hbc).elim
  | bytes s t =>
      cases comparison (bytes t) c with
      | bytes _ u =>
          exact congrArg _
            (lexCompare_lt_trans (Relation.ordered.inj hab) (Relation.ordered.inj hbc))
      | numbers h _ => exact (hrefused h rfl hbc).elim
  | timestamps s t =>
      cases comparison (timestamp t) c with
      | timestamps _ u =>
          have hst := Int.compare_eq_lt.mp (Relation.ordered.inj hab)
          have htu := Int.compare_eq_lt.mp (Relation.ordered.inj hbc)
          exact congrArg _ (Int.compare_eq_lt.mpr (Int.lt_trans hst htu))
      | numbers h _ => exact (hrefused h rfl hbc).elim
  | numbers h _ =>
      have hnumbers := h.symm.trans hab
      obtain ⟨x, y, hx, hy, -⟩ := doubles_of_relateNumbers_lt hnumbers
      have hanumber : a.class? = some .number := class?_eq_number_iff.mpr (by rw [hx]; rfl)
      cases comparison b c with
      | bools | strings | bytes | timestamps => cases hy
      | numbers h' _ =>
          have hothers := h'.symm.trans hbc
          obtain ⟨_, z, -, hz, -⟩ := doubles_of_relateNumbers_lt hothers
          have hcnumber : c.class? = some .number := class?_eq_number_iff.mpr (by rw [hz]; rfl)
          rw [relate_of_numbers hanumber hcnumber]
          exact relateNumbers_lt_trans hnumbers hothers

theorem relate_eq_incompatible_iff {k l : TypeClass} (ha : a.class? = some k)
    (hb : b.class? = some l) : a.relate b = .incompatible ↔ k ≠ l := by
  constructor
  · rintro hrelate rfl
    cases hnan : a.isNaN || b.isNaN with
    | true =>
        rw [relate_of_isNaN ha hb hnan] at hrelate
        cases hrelate
    | false =>
        obtain ⟨o, ho⟩ := exists_relate_eq_ordered ha hb hnan
        rw [ho] at hrelate
        cases hrelate
  · exact relate_of_class_ne ha hb

/-! ### The laws of the operators -/

section

variable (op : CompareOp) (a b : Value)

theorem compareBy_notEq : a.compareBy .notEq b = (a.compareBy .eq b).map Ternary.not := by
  cases h : a.isNull || b.isNull with
  | true =>
      rw [compareBy_of_null _ h, compareBy_of_null _ h]
      rfl
  | false =>
      rw [compareBy_eq_answer _ h, compareBy_eq_answer _ h]
      exact CompareOp.answer_notEq

theorem compareBy_ltEq :
    a.compareBy .ltEq b = (do return (← a.compareBy .lt b).or (← a.compareBy .eq b)) := by
  cases h : a.isNull || b.isNull with
  | true =>
      rw [compareBy_of_null _ h, compareBy_of_null _ h, compareBy_of_null _ h]
      rfl
  | false =>
      rw [compareBy_eq_answer _ h, compareBy_eq_answer _ h, compareBy_eq_answer _ h]
      exact CompareOp.answer_ltEq

theorem compareBy_gtEq :
    a.compareBy .gtEq b = (do return (← a.compareBy .gt b).or (← a.compareBy .eq b)) := by
  cases h : a.isNull || b.isNull with
  | true =>
      rw [compareBy_of_null _ h, compareBy_of_null _ h, compareBy_of_null _ h]
      rfl
  | false =>
      rw [compareBy_eq_answer _ h, compareBy_eq_answer _ h, compareBy_eq_answer _ h]
      exact CompareOp.answer_gtEq

/-- Values may change sides if the operator is mirrored; a failure then names them so. -/
theorem compareBy_mirrored :
    a.compareBy op b = (b.compareBy op.mirrored a).mapError JoinError.withTypesSwapped := by
  cases h : a.isNull || b.isNull with
  | true =>
      rw [compareBy_of_null _ h, compareBy_of_null _ ((Bool.or_comm ..).trans h)]
      rfl
  | false =>
      rw [compareBy_eq_answer _ h, compareBy_eq_answer _ ((Bool.or_comm ..).trans h),
        CompareOp.answer_mapError, ← CompareOp.answer_swap, ← relate_swap b a]
      rfl

/-- A comparison is open only because of a null. -/
theorem compareBy_eq_unknown_iff :
    a.compareBy op b = .ok .unknown ↔ a = .null ∨ b = .null := by
  rw [← isNull_iff, ← isNull_iff, ← Bool.or_eq_true]
  cases h : a.isNull || b.isNull with
  | true => simp [compareBy_of_null op h]
  | false => simp [compareBy_eq_answer op h, CompareOp.answer_ne_unknown]

/-- What fails is the order of values of two classes. -/
theorem compareBy_eq_error_iff (e : JoinError) :
    a.compareBy op b = .error e ↔
      op ≠ .eq ∧ op ≠ .notEq ∧
        (∃ k l, a.class? = some k ∧ b.class? = some l ∧ k ≠ l) ∧
          .typeMismatch a.typeName b.typeName = e := by
  cases h : a.isNull || b.isNull with
  | true =>
      rw [Bool.or_eq_true, isNull_iff, isNull_iff] at h
      rw [(compareBy_eq_unknown_iff op a b).mpr h]
      rcases h with rfl | rfl <;> simp [class?]
  | false =>
      rw [compareBy_eq_answer op h, CompareOp.answer_eq_error_iff]
      rw [Bool.or_eq_false_iff] at h
      obtain ⟨k, hk⟩ := isNull_eq_false_iff.mp h.1
      obtain ⟨l, hl⟩ := isNull_eq_false_iff.mp h.2
      rw [relate_eq_incompatible_iff hk hl]
      simp [hk, hl]

end

section

variable {k : TypeClass} (ha : a.class? = some k) (hb : b.class? = some k)

include ha hb

theorem compareBy_of_isNaN (h : (a.isNaN || b.isNaN) = true) (op : CompareOp)
    (hop : op ≠ .notEq) : a.compareBy op b = .ok .false := by
  rw [compareBy_eq_answer op (anyNull_of_class? ha hb), relate_of_isNaN ha hb h]
  simp [CompareOp.answer, hop, Ternary.ofBool]

/-- Of two values of one class that are ordered, one of three operators tells how. -/
theorem exists_compareBy_iff (h : (a.isNaN || b.isNaN) = false) :
    ∃ held ∈ CompareOp.orderings, ∀ op ∈ CompareOp.orderings,
      a.compareBy op b = .ok (.ofBool (decide (op = held))) := by
  obtain ⟨o, ho⟩ := exists_relate_eq_ordered ha hb h
  have hanswer (op : CompareOp) : a.compareBy op b = .ok (.ofBool (op.accepts o)) := by
    rw [compareBy_eq_answer op (anyNull_of_class? ha hb), ho]
    rfl
  simp only [hanswer]
  cases o with
  | lt => exact ⟨.lt, by decide, by decide⟩
  | eq => exact ⟨.eq, by decide, by decide⟩
  | gt => exact ⟨.gt, by decide, by decide⟩

end

theorem compareBy_lt_iff : a.compareBy .lt b = .ok .true ↔
    (a.isNull || b.isNull) = false ∧ a.relate b = .ordered .lt := by
  cases h : a.isNull || b.isNull with
  | true => simp [compareBy_of_null _ h]
  | false => simp [compareBy_eq_answer _ h, CompareOp.answer_lt_eq_true_iff]

theorem compareBy_lt_trans (hab : a.compareBy .lt b = .ok .true)
    (hbc : b.compareBy .lt c = .ok .true) : a.compareBy .lt c = .ok .true := by
  rw [compareBy_lt_iff, Bool.or_eq_false_iff] at hab hbc ⊢
  exact ⟨⟨hab.1.1, hbc.1.2⟩, relate_lt_trans hab.2 hbc.2⟩

/-- The six comparisons of two values agree. Inequality negates equality, which is the equality of
keys; a comparison is its mirror image with the values the other way round, and both fail or
neither does; a weak order is the strict one or equality, and fails with it, which it does for
values of two classes; what is unknown is a comparison with null; two values of one class stand in
exactly one of three orders, and in none of them if one is not a number; and less-than is
transitive, whatever the kinds of the numbers. -/
theorem comparisons_agree (a b : Value) :
    a.compareBy .notEq b = (a.compareBy .eq b).map Ternary.not ∧
      a.compareBy .eq b = .ok (a.sqlEquals b) ∧
      (∀ op, a.compareBy op b =
        (b.compareBy op.mirrored a).mapError JoinError.withTypesSwapped) ∧
      a.compareBy .ltEq b = (do return (← a.compareBy .lt b).or (← a.compareBy .eq b)) ∧
      a.compareBy .gtEq b = (do return (← a.compareBy .gt b).or (← a.compareBy .eq b)) ∧
      (∀ op e, a.compareBy op b = .error e ↔
        op ≠ .eq ∧ op ≠ .notEq ∧ (∃ k l, a.class? = some k ∧ b.class? = some l ∧ k ≠ l) ∧
          .typeMismatch a.typeName b.typeName = e) ∧
      (∀ op, a.compareBy op b = .ok .unknown ↔ a = .null ∨ b = .null) ∧
      (∀ k, a.class? = some k → b.class? = some k →
        if a.isNaN || b.isNaN then
          ∀ op ∈ CompareOp.orderings, a.compareBy op b = .ok .false
        else
          ∃ held ∈ CompareOp.orderings, ∀ op ∈ CompareOp.orderings,
            a.compareBy op b = .ok (.ofBool (decide (op = held)))) ∧
      ∀ c, a.compareBy .lt b = .ok .true → b.compareBy .lt c = .ok .true →
        a.compareBy .lt c = .ok .true := by
  refine ⟨compareBy_notEq a b, Expr.compareBy_eq a b, fun op => compareBy_mirrored op a b,
    compareBy_ltEq a b, compareBy_gtEq a b, fun op e => compareBy_eq_error_iff op a b e,
    fun op => compareBy_eq_unknown_iff op a b, ?_, fun c => compareBy_lt_trans⟩
  intro k ha hb
  split
  next h =>
    intro op hop
    apply compareBy_of_isNaN ha hb h
    rintro rfl
    exact absurd hop (by decide)
  next h =>
    rw [Bool.not_eq_true] at h
    exact exists_compareBy_iff ha hb h

/-- An integer that no double stands for lies between its neighbours, of which one is a double. -/
theorem comparisons_around_rounded_integer :
    let a := int64 9007199254740992
    let b := int64 9007199254740993
    let c := float64 ⟨0x4340000000000001⟩
    a.compareBy .lt b = .ok .true ∧ b.compareBy .lt c = .ok .true ∧
      a.compareBy .lt c = .ok .true ∧ c.compareBy .gt a = .ok .true ∧
      ∃ held ∈ CompareOp.orderings, ∀ op ∈ CompareOp.orderings,
        b.compareBy op c = .ok (.ofBool (decide (op = held))) := by
  intro a b c
  have hab : a.compareBy .lt b = .ok .true := by decide
  have hbc : b.compareBy .lt c = .ok .true := by decide +kernel
  obtain ⟨-, -, -, -, -, -, -, -, htrans⟩ := comparisons_agree a b
  obtain ⟨-, -, -, -, -, -, -, hone, -⟩ := comparisons_agree b c
  have hac : a.compareBy .lt c = .ok .true := htrans c hab hbc
  have hca : c.compareBy .gt a = .ok .true := by
    obtain ⟨-, -, hback, -⟩ := comparisons_agree c a
    rw [hback, CompareOp.mirrored, hac]
    rfl
  have hnumber : ¬ (b.isNaN || c.isNaN) = true := by decide
  exact ⟨hab, hbc, hac, hca, (if_neg hnumber).mp (hone .number rfl rfl)⟩

end Value

end JoinEngine
