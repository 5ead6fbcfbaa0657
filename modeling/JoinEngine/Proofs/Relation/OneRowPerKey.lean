import JoinEngine.Proofs.Outcome
import JoinEngine.Proofs.Relation.FlatStore
import JoinEngine.Proofs.Value.Comparison

/-!
How many rows of a keyed store one key can mean. No two stored rows have the same key, but a key
that is looked up or written may be equal to the keys of several rows: an integer and a
floating-point number are compared after the integer is rounded, and different integers may be
rounded to the same number. There is no other way. So a lookup finds at most one row, and a write
replaces at most one, unless the key has a floating-point number to which several integers are
equal.
-/

namespace JoinEngine

namespace Value

/-- Several integers are equal to the value. -/
def Blurs (v : Value) : Prop :=
  ∃ m n : Int64, m ≠ n ∧ (int64 m).sqlEquals v = .true ∧ (int64 n).sqlEquals v = .true

/-- Two values are different integers, and both are equal to a third that is none. -/
structure Blurred (a b v : Value) : Prop where
  left : a.sqlEquals v = .true
  right : b.sqlEquals v = .true
  integers : ∃ m n, a.int? = some m ∧ b.int? = some n ∧ m ≠ n
  other : v.int? = none

section

variable {a b v : Value}

/-- The width of an integer does not matter to what it equals. -/
theorem sqlEquals_of_int? {m : Int64} (h : a.int? = some m) (v : Value) :
    a.sqlEquals v = (int64 m).sqlEquals v := by
  cases a with
  | int32 n =>
      obtain rfl := Option.some.inj h
      have hrelate : (int32 n).relate v = (int64 n.toInt64).relate v := by
        cases v <;> simp [relate, int?, double?, Int32.toInt_toInt64]
      unfold sqlEquals
      rw [hrelate]
      rfl
  | int64 n =>
      obtain rfl := Option.some.inj h
      rfl
  | _ => cases h

theorem Blurred.blurs (h : Blurred a b v) : v.Blurs := by
  obtain ⟨m, n, hm, hn, hdiffer⟩ := h.integers
  exact ⟨m, n, hdiffer, sqlEquals_of_int? hm v ▸ h.left, sqlEquals_of_int? hn v ▸ h.right⟩

/-- Equal numbers have equal doubles. -/
theorem doubles_of_relateNumbers_eq (h : a.relateNumbers b = .ordered .eq) :
    ∃ x y, a.double? = some x ∧ b.double? = some y ∧ (a.isNaN || b.isNaN) = false ∧
      x.rank = y.rank := by
  unfold relateNumbers at h
  split at h
  next m n hm hn =>
    have hmn : m.toInt = n.toInt := by simpa [Std.compare_eq_iff_eq] using h
    refine ⟨_, _, KeyAtom.double?_of_int? hm, KeyAtom.double?_of_int? hn, ?_, by rw [hmn]⟩
    rw [isNaN_of_int? hm, isNaN_of_int? hn]
    rfl
  next =>
    obtain ⟨x, y, hx, hy, hnan, hcompare⟩ := doubles_of_relateDoubles h
    exact ⟨x, y, hx, hy, hnan, Std.compare_eq_iff_eq.mp hcompare⟩

/-- Equal doubles make equal numbers, unless both are integers. -/
theorem relateNumbers_eq_of_doubles {x y : Double} (hx : a.double? = some x)
    (hy : b.double? = some y) (hnan : (a.isNaN || b.isNaN) = false) (hrank : x.rank = y.rank)
    (hnot : a.int? = none ∨ b.int? = none) : a.relateNumbers b = .ordered .eq := by
  unfold relateNumbers
  split
  next m n hm hn => simp [hm, hn] at hnot
  next =>
    rw [hx, hy]
    simp [relateDoubles, Double.compare?, isNaN_of_double? hx, isNaN_of_double? hy, hnan, hrank]

theorem sqlEquals_of_relateNumbers (h : a.relateNumbers b = .ordered .eq) :
    a.sqlEquals b = .true := by
  obtain ⟨x, y, hx, hy, -⟩ := doubles_of_relateNumbers_eq h
  have ha : a.class? = some .number := class?_eq_number_iff.mpr (by rw [hx]; rfl)
  have hb : b.class? = some .number := class?_eq_number_iff.mpr (by rw [hy]; rfl)
  have hnull := Bool.or_eq_false_iff.mp (anyNull_of_class? ha hb)
  exact (sqlEquals_eq_true_iff a b).mpr ⟨hnull.1, hnull.2, (relate_of_numbers ha hb).trans h⟩

/-- What is equal to the same value is equal, different integers apart. -/
theorem equal_or_blurred (ha : a.sqlEquals v = .true) (hb : b.sqlEquals v = .true) :
    a.sqlEquals b = .true ∨ Blurred a b v := by
  rcases eq_or_relateNumbers_of_sqlEquals ha with rfl | hav
  · left
    rwa [sqlEquals_comm]
  rcases eq_or_relateNumbers_of_sqlEquals hb with rfl | hbv
  · exact Or.inl ha
  by_cases hints : a.int?.isSome ∧ b.int?.isSome
  · obtain ⟨m, hm⟩ := Option.isSome_iff_exists.mp hints.1
    obtain ⟨n, hn⟩ := Option.isSome_iff_exists.mp hints.2
    by_cases hmn : m = n
    · left
      apply sqlEquals_of_relateNumbers
      simp [relateNumbers, hm, hn, hmn]
    · right
      refine ⟨ha, hb, ⟨m, n, hm, hn, hmn⟩, ?_⟩
      cases hk : v.int? with
      | none => rfl
      | some k =>
          -- integers are compared exactly, so both would be the third
          simp only [relateNumbers, hm, hn, hk, Relation.ordered.injEq,
            Std.compare_eq_iff_eq] at hav hbv
          exact absurd (Int64.toInt_inj.mp (hav.trans hbv.symm)) hmn
  · left
    obtain ⟨x, z, hx, hz, hnan, hxz⟩ := doubles_of_relateNumbers_eq hav
    obtain ⟨y, z', hy, hz', hnan', hyz⟩ := doubles_of_relateNumbers_eq hbv
    obtain rfl := Option.some.inj (hz.symm.trans hz')
    have hnumbers : (a.isNaN || b.isNaN) = false := by
      rw [Bool.or_eq_false_iff] at hnan hnan' ⊢
      exact ⟨hnan.1, hnan'.1⟩
    have hnot : a.int? = none ∨ b.int? = none := by
      by_contra hboth
      simp only [not_or, ← ne_eq, Option.ne_none_iff_isSome] at hboth
      exact hints hboth
    exact sqlEquals_of_relateNumbers
      (relateNumbers_eq_of_doubles hx hy hnumbers (hxz.trans hyz.symm) hnot)

/-- Only a number that is not an integer blurs. -/
theorem Blurs.not_integer (h : v.Blurs) : v.class? = some .number ∧ v.int? = none := by
  obtain ⟨m, n, hdiffer, hm, hn⟩ := h
  have hother : v.int? = none := by
    rcases equal_or_blurred hm hn with hsame | hblurred
    · obtain ⟨-, -, hrelate⟩ := (sqlEquals_eq_true_iff _ _).mp hsame
      have hmn : m.toInt = n.toInt := by
        simpa [relate, int?, Std.compare_eq_iff_eq] using hrelate
      exact absurd (Int64.toInt_inj.mp hmn) hdiffer
    · exact hblurred.other
  refine ⟨?_, hother⟩
  rcases eq_or_relateNumbers_of_sqlEquals hm with rfl | hnumbers
  · cases hother
  · obtain ⟨-, x, -, hx, -⟩ := doubles_of_relateNumbers_eq hnumbers
    rw [class?_eq_number_iff, hx]
    rfl

end

end Value

namespace KeyedMap

section

variable {a b v : Value}

theorem sameComponent_iff : sameComponent a b = true ↔
    (a = .null ∧ b = .null) ∨ a.sqlEquals b = .true := by
  unfold sameComponent
  rw [← Value.isNull_iff, ← Value.isNull_iff, ← Bool.and_eq_true, ← Ternary.isTrue_iff]
  split
  next hnull => simp [hnull]
  next hnull => simp [hnull]

/-- What counts as the same component as a third counts as the same, different integers apart. -/
theorem same_or_blurred (ha : sameComponent a v = true) (hb : sameComponent b v = true) :
    sameComponent a b = true ∨ Value.Blurred a b v := by
  rw [sameComponent_iff] at ha hb ⊢
  rcases ha with ⟨rfl, rfl⟩ | ha
  · rcases hb with ⟨rfl, -⟩ | hb
    · exact Or.inl (Or.inl ⟨rfl, rfl⟩)
    · exact absurd ((Value.sqlEquals_eq_true_iff _ _).mp hb).2.1 nofun
  · rcases hb with ⟨-, rfl⟩ | hb
    · exact absurd ((Value.sqlEquals_eq_true_iff _ _).mp ha).2.1 nofun
    · exact (Value.equal_or_blurred ha hb).imp_left Or.inr

end

/-- What counts as the same key as a third counts as the same, unless different integers stand in
some place. -/
theorem sameKeys_or_blurred {as bs key : List Value} (ha : as.length = key.length)
    (hb : bs.length = key.length)
    (hav : (as.zip key).all (fun (x, y) => sameComponent x y) = true)
    (hbv : (bs.zip key).all (fun (x, y) => sameComponent x y) = true) :
    (as.zip bs).all (fun (x, y) => sameComponent x y) = true ∨
      ∃ i < key.length,
        Value.Blurred (as.getD i .null) (bs.getD i .null) (key.getD i .null) := by
  induction key generalizing as bs with
  | nil =>
      obtain rfl := List.length_eq_zero_iff.mp ha
      exact Or.inl rfl
  | cons v key ih =>
      obtain ⟨x, as, rfl⟩ := List.exists_cons_of_length_eq_add_one ha
      obtain ⟨y, bs, rfl⟩ := List.exists_cons_of_length_eq_add_one hb
      simp only [List.zip_cons_cons, List.all_cons, Bool.and_eq_true] at hav hbv ⊢
      rcases same_or_blurred hav.1 hbv.1 with hsame | hblurred
      · rcases ih (Nat.succ.inj ha) (Nat.succ.inj hb) hav.2 hbv.2 with hrest | ⟨i, hi, hblurred⟩
        · exact Or.inl ⟨hsame, hrest⟩
        · exact Or.inr ⟨i + 1, Nat.succ_lt_succ hi, hblurred⟩
      · exact Or.inr ⟨0, Nat.succ_pos _, hblurred⟩

/-- In some place of the key two rows hold different integers, and the key has a number there that
both are equal to. -/
def BlurredBy (m : KeyedMap) (key : List Value) (a b : Row) : Prop :=
  ∃ i < key.length,
    Value.Blurred ((m.keyOf a).getD i .null) ((m.keyOf b).getD i .null) (key.getD i .null)

section

variable {m next : KeyedMap} {key : List Value} {a b row : Row} {rows : List Row}

theorem BlurredBy.blurs (h : m.BlurredBy key a b) : ∃ v ∈ key, v.Blurs := by
  obtain ⟨i, hi, hblurred⟩ := h
  refine ⟨key.getD i .null, ?_, hblurred.blurs⟩
  rw [List.getD_eq_getElem?_getD, List.getElem?_eq_getElem hi]
  exact List.getElem_mem hi

/-- Of rows any two of which are blurred by a key there is at most one, if nothing in the key blurs
integers. -/
theorem length_le_one_of_blurred (h : rows.Pairwise (m.BlurredBy key))
    (hkey : ∀ v ∈ key, ¬ v.Blurs) : rows.length ≤ 1 := by
  match rows, h with
  | [], _ => exact Nat.zero_le 1
  | [_], _ => exact Nat.le_refl 1
  | _ :: _ :: _, h =>
      obtain ⟨v, member, hblurs⟩ := ((List.pairwise_cons.mp h).1 _ List.mem_cons_self).blurs
      exact absurd hblurs (hkey v member)

theorem sameComponents_of_matchesKey (h : m.matchesKey row key = true) :
    ((m.keyOf row).zip key).all (fun (x, y) => sameComponent x y) = true := by
  unfold matchesKey at h
  rw [List.all_eq_true] at h ⊢
  intro pair member
  exact sameComponent_iff.mpr (Or.inr ((Ternary.isTrue_iff _).mp (h pair member)))

/-- Among rows of different keys, those whose keys count as the same as some key are blurred by
it. -/
theorem pairwise_blurred (hdistinct : rows.Pairwise fun a b => m.sameKey a b = false)
    (hwidth : key.length = m.keyColumns.length) {p : Row → Bool}
    (hp : ∀ row, p row = true →
      ((m.keyOf row).zip key).all (fun (x, y) => sameComponent x y) = true) :
    (rows.filter p).Pairwise (m.BlurredBy key) := by
  have hlength (row : Row) : (m.keyOf row).length = key.length := by
    rw [keyOf, List.length_map, hwidth]
  refine (hdistinct.filter p).imp_of_mem fun {a b} ha hb hdiffer => ?_
  have hav := hp a (List.mem_filter.mp ha).2
  have hbv := hp b (List.mem_filter.mp hb).2
  refine (sameKeys_or_blurred (hlength a) (hlength b) hav hbv).resolve_left fun hsame => ?_
  exact Bool.false_ne_true (hdiffer.symm.trans hsame)

end

section

variable [KeyHasher] {m next : KeyedMap} {row : Row} {rows : List Row}

omit [KeyHasher] in
theorem keyColumns_of_empty {name : String} {arity count : Nat} {keyColumns : List Nat}
    (h : empty name arity keyColumns count = .ok m) : m.keyColumns = keyColumns := by
  unfold empty at h
  split at h
  · cases h
  split at h
  · cases h
  obtain rfl := Except.ok.inj h
  rfl

/-- The store holds the listed rows, of which no two have the same key. -/
structure Lists (m : KeyedMap) (rows : List Row) : Prop where
  stores : m.Stores rows
  distinct : rows.Pairwise fun a b => m.sameKey a b = false

/-- A row takes the place of those with its key. -/
theorem Lists.insert (h : m.Lists rows) (hinsert : m.insert row = .ok next) :
    next.Lists (rows.filter (fun old => !m.sameKey old row) ++ [row]) ∧
      next.keyColumns = m.keyColumns := by
  rw [insert_eq, check_eq_ok_iff, check_eq_ok_iff, Decidable.not_not] at hinsert
  obtain ⟨harity, -, hnext⟩ := hinsert
  obtain rfl := Except.ok.inj hnext
  refine ⟨⟨h.stores.written harity, ?_⟩, rfl⟩
  change (_ ++ [row]).Pairwise fun a b => m.sameKey a b = false
  refine List.pairwise_append.mpr ⟨h.distinct.filter _, List.pairwise_singleton _ _, ?_⟩
  intro old hold other hother
  rw [List.mem_singleton.mp hother]
  simpa using (List.mem_filter.mp hold).2

theorem Lists.attempts (inserts : List Row) (h : m.Lists rows) :
    ∃ final, (attempts KeyedMap.insert m inserts).2.Lists final ∧
      (attempts KeyedMap.insert m inserts).2.keyColumns = m.keyColumns := by
  induction inserts generalizing m rows with
  | nil => exact ⟨rows, h, rfl⟩
  | cons row rest ih =>
      cases hinsert : m.insert row with
      | error e =>
          simp only [JoinEngine.attempts, hinsert]
          exact ih h
      | ok next =>
          simp only [JoinEngine.attempts, hinsert]
          obtain ⟨hnext, hsame⟩ := h.insert hinsert
          rw [← hsame]
          exact ih hnext

/-- One key means one row of a store, except for what rounding blurs. Let a store have been filled
by any sequence of writes. A lookup of the right width finds at most one row, and a row that is
written replaces at most one, so that the store does not shrink, if no component of the key is a
number to which several integers are equal. In any case, any two rows that are found, or replaced,
hold different integers in a place where the key has such a number. -/
theorem one_row_unless_blurred {name : String} {arity count : Nat} {keyColumns : List Nat}
    {start : KeyedMap} (hstart : empty name arity keyColumns count = .ok start)
    (inserts : List Row) :
    let store := (attempts KeyedMap.insert start inserts).2
    (∀ key, key.length = keyColumns.length →
      ∃ found, store.lookup key = .ok found ∧ found.Pairwise (store.BlurredBy key) ∧
        ((∀ v ∈ key, ¬ v.Blurs) → found.length ≤ 1)) ∧
    ∀ row next, store.insert row = .ok next →
      ∃ replaced kept, store.rows.Perm (replaced ++ kept) ∧ next.rows.Perm (kept ++ [row]) ∧
        replaced.Pairwise (store.BlurredBy (store.keyOf row)) ∧
        ((∀ v ∈ store.keyOf row, ¬ v.Blurs) → replaced.length ≤ 1 ∧ store.size ≤ next.size) := by
  intro store
  obtain ⟨rows, hlists, hkeys⟩ : ∃ rows, store.Lists rows ∧ store.keyColumns = keyColumns := by
    rw [← keyColumns_of_empty hstart]
    exact Lists.attempts inserts ⟨stores_empty hstart, List.Pairwise.nil⟩
  -- from here on it does not matter how the store came about
  clear_value store
  refine ⟨fun key hwidth => ?_, fun row next hinsert => ?_⟩
  · have hlookup := hlists.stores.lookup key
    rw [hkeys, if_neg (not_not_intro hwidth)] at hlookup
    have hfound : (rows.filter ((store.flat rows).matchesKey key)).Pairwise
        (store.BlurredBy key) := by
      rw [← hkeys] at hwidth
      refine pairwise_blurred hlists.distinct hwidth fun row hrow => ?_
      rw [flat_matchesKey] at hrow
      exact sameComponents_of_matchesKey hrow
    exact ⟨_, hlookup, hfound, length_le_one_of_blurred hfound⟩
  · obtain ⟨hnext, -⟩ := hlists.insert hinsert
    have hreplaced : (rows.filter (store.sameKey · row)).Pairwise
        (store.BlurredBy (store.keyOf row)) :=
      pairwise_blurred hlists.distinct (List.length_map _) fun _ hold => hold
    have hparts := List.filter_append_perm (store.sameKey · row) rows
    have hstored := hlists.stores.perm.trans hparts.symm
    refine ⟨_, _, hstored, hnext.stores.perm, hreplaced, fun hkey => ?_⟩
    have hone := length_le_one_of_blurred hreplaced hkey
    have hbefore := hstored.length_eq
    have hafter := hnext.stores.perm.length_eq
    rw [List.length_append] at hbefore hafter
    refine ⟨hone, ?_⟩
    unfold size
    rw [List.length_singleton] at hafter
    omega

end

/-- A number that two stored integers are rounded to finds both, which it blurs. An integer finds at
most the row that an equal number has replaced before, and takes its place. -/
theorem one_row_of_mixed_keys :
    ∃ start, empty "m" 2 [0] 3 = .ok start ∧
      let store := (attempts KeyedMap.insert start
        [[.int64 9007199254740992, .string "a"], [.int64 9007199254740993, .string "b"],
          [.int32 1, .string "c"], [.float64 (Double.ofInt 1), .string "d"]]).2
      (∃ found, store.lookup [.float64 ⟨0x4340000000000000⟩] = .ok found ∧ found.length = 2 ∧
        found.Pairwise (store.BlurredBy [.float64 ⟨0x4340000000000000⟩])) ∧
      (∃ found, store.lookup [.int64 1] = .ok found ∧ found.length ≤ 1) ∧
      ∃ next, store.insert [.int64 1, .string "e"] = .ok next ∧ store.size ≤ next.size := by
  let start : KeyedMap := ⟨"m", 2, [0], List.replicate 3 []⟩
  have hstart : empty "m" 2 [0] 3 = .ok start := rfl
  refine ⟨start, hstart, ?_⟩
  intro store
  obtain ⟨hlookup, hinsert⟩ := one_row_unless_blurred hstart
    [[.int64 9007199254740992, .string "a"], [.int64 9007199254740993, .string "b"],
      [.int32 1, .string "c"], [.float64 (Double.ofInt 1), .string "d"]]
  have hexact : ∀ v ∈ [Value.int64 1], ¬ v.Blurs := by
    intro v member hblurs
    rw [List.mem_singleton.mp member] at hblurs
    cases hblurs.not_integer.2
  refine ⟨?_, ?_, ?_⟩
  · obtain ⟨found, hfound, hblurred, -⟩ := hlookup [.float64 ⟨0x4340000000000000⟩] rfl
    have hboth : (store.lookup [.float64 ⟨0x4340000000000000⟩]).map List.length = .ok 2 := by
      decide +kernel
    rw [hfound] at hboth
    exact ⟨found, hfound, Except.ok.inj hboth, hblurred⟩
  · obtain ⟨found, hfound, -, hone⟩ := hlookup [.int64 1] rfl
    exact ⟨found, hfound, hone hexact⟩
  · obtain ⟨next, hnext⟩ : ∃ next, store.insert [.int64 1, .string "e"] = .ok next := ⟨_, rfl⟩
    obtain ⟨_, _, -, -, -, hone⟩ := hinsert _ _ hnext
    exact ⟨next, hnext, (hone hexact).2⟩

/-- Two integers next to each other that are rounded to one number are two rows of a store. The
number finds both, and when it is written it takes the place of both. -/
theorem insert_replaces_two_integers :
    ∃ start, empty "m" 1 [0] 1 = .ok start ∧
      let store := (attempts KeyedMap.insert start
        [[.int64 9007199254740992], [.int64 9007199254740993]]).2
      store.lookup [.float64 ⟨0x4340000000000000⟩] =
          .ok [[.int64 9007199254740992], [.int64 9007199254740993]] ∧
        store.size = 2 ∧
        ∃ next, store.insert [.float64 ⟨0x4340000000000000⟩] = .ok next ∧ next.size = 1 := by
  refine ⟨_, rfl, ?_⟩
  intro store
  refine ⟨by decide +kernel, by decide +kernel, _, rfl, by decide +kernel⟩

end KeyedMap

end JoinEngine
