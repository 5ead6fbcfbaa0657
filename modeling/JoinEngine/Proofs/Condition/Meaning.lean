import JoinEngine.Proofs.Expr.Conjunction
import JoinEngine.Proofs.Value.Equality

/-!
What a split condition means. A descriptor keeps the pairs of columns that must be equal apart
from the rest of the condition; here the two together are shown to say what the condition says.
Each pair is a conjunct whose outcome is the SQL equality of its two values and never a failure,
so on rows where all pairs are true the condition and the residual have one and the same
outcome, and on all others the condition is not true.
-/

namespace JoinEngine

namespace Expr

/-- A key pair is an equality of a left and a right column, written either way round. -/
theorem keyPair?_eq_some {leftArity width j k : Nat} {e : Expr}
    (h : e.keyPair? leftArity width = some (j, k)) :
    j < leftArity ∧ leftArity + k < width ∧
      (e = columnsEqual j (leftArity + k) ∨ e = columnsEqual (leftArity + k) j) := by
  unfold keyPair? at h
  split at h
  next a b =>
    split at h
    next hab =>
      obtain ⟨rfl, rfl⟩ : a = j ∧ b - leftArity = k := by simpa using h
      have hb : leftArity + (b - leftArity) = b := by omega
      exact ⟨hab.1, by omega, Or.inl (by rw [hb]; rfl)⟩
    next =>
      split at h
      next hba =>
        obtain ⟨rfl, rfl⟩ : b = j ∧ a - leftArity = k := by simpa using h
        have ha : leftArity + (a - leftArity) = a := by omega
        exact ⟨hba.1, by omega, Or.inr (by rw [ha]; rfl)⟩
      next => cases h
  next => cases h

theorem compareBy_eq (a b : Value) : a.compareBy .eq b = .ok (a.sqlEquals b) := by
  unfold Value.compareBy Value.sqlEquals
  split
  · rfl
  · cases a.relate b with
    | ordered o => cases o <;> rfl
    | _ => rfl

theorem holds_compare (row : Row) (op : CompareOp) (left right : Expr) :
    (Expr.compare op left right).holds row =
      (left.evaluate row >>= fun a => right.evaluate row >>= fun b => a.compareBy op b) := by
  simp only [holds, evaluate]
  cases left.evaluate row with
  | error f => rfl
  | ok a =>
      cases right.evaluate row with
      | error f => rfl
      | ok b =>
          change (a.compareBy op b >>= fun t => pure t.toValue) >>= Value.truth = a.compareBy op b
          cases a.compareBy op b with
          | error f => rfl
          | ok t => exact Ternary.truth_toValue t

theorem holds_columnsEqual {row : Row} {a b : Nat} (ha : a < row.length) (hb : b < row.length) :
    (columnsEqual a b).holds row =
      .ok ((row.getD a .null).sqlEquals (row.getD b .null)) := by
  have hleft : (Expr.column a).evaluate row = .ok (row.getD a .null) := by
    simp [evaluate, ha]
  have hright : (Expr.column b).evaluate row = .ok (row.getD b .null) := by
    simp [evaluate, hb]
  rw [columnsEqual, holds_compare, hleft, hright]
  exact compareBy_eq _ _

end Expr

namespace JoinDescriptor

def keyPairs (condition : Expr) (leftArity rightArity : Nat) : List (Nat × Nat) :=
  condition.conjuncts.filterMap (Expr.keyPair? leftArity (leftArity + rightArity))

def leftover (condition : Expr) (leftArity rightArity : Nat) : List Expr :=
  condition.conjuncts.filter fun e =>
    (e.keyPair? leftArity (leftArity + rightArity)).isNone

def pairTruths (d : JoinDescriptor) (left right : Row) : List Ternary :=
  (d.leftKeys.zip d.rightKeys).map fun (l, r) =>
    (left.getD l .null).sqlEquals (right.getD r .null)

/-- The outcome of the residual on a joined row; without a residual nothing is left to test. -/
def residualHolds (d : JoinDescriptor) (row : Row) : Except JoinError Ternary :=
  match d.residual with
  | none => .ok .true
  | some residual => residual.holds row

section

variable {condition : Expr} {leftArity rightArity : Nat} {d : JoinDescriptor}

theorem eq_of_classify (h : classify condition leftArity rightArity = .ok d) :
    d = ⟨(keyPairs condition leftArity rightArity).map (·.1),
      (keyPairs condition leftArity rightArity).map (·.2),
      residualOf (leftover condition leftArity rightArity),
      condition, leftArity, rightArity⟩ := by
  unfold classify at h
  simp only at h
  split at h
  · cases h
  · exact (Except.ok.inj h).symm

theorem zip_keys_of_classify (h : classify condition leftArity rightArity = .ok d) :
    d.leftKeys.zip d.rightKeys = keyPairs condition leftArity rightArity := by
  rw [eq_of_classify h, List.zip_map']
  exact List.map_id _

theorem keys_length_of_classify (h : classify condition leftArity rightArity = .ok d) :
    d.leftKeys.length = d.rightKeys.length := by
  rw [eq_of_classify h, List.length_map, List.length_map]

theorem key_bounds_of_mem {j k : Nat} (member : (j, k) ∈ keyPairs condition leftArity rightArity) :
    j < leftArity ∧ k < rightArity := by
  obtain ⟨e, -, hpair⟩ := List.mem_filterMap.mp member
  have hbounds := Expr.keyPair?_eq_some hpair
  exact ⟨hbounds.1, by omega⟩

theorem leftKeys_lt (h : classify condition leftArity rightArity = .ok d) :
    ∀ j ∈ d.leftKeys, j < leftArity := by
  intro j member
  rw [eq_of_classify h] at member
  obtain ⟨⟨_, k⟩, hpair, rfl⟩ := List.mem_map.mp member
  exact (key_bounds_of_mem hpair).1

theorem rightKeys_lt (h : classify condition leftArity rightArity = .ok d) :
    ∀ k ∈ d.rightKeys, k < rightArity := by
  intro k member
  rw [eq_of_classify h] at member
  obtain ⟨⟨j, _⟩, hpair, rfl⟩ := List.mem_map.mp member
  exact (key_bounds_of_mem hpair).2

theorem residualHolds_of_classify (h : classify condition leftArity rightArity = .ok d)
    (row : Row) :
    d.residualHolds row = Expr.allTrue row (leftover condition leftArity rightArity) := by
  rw [eq_of_classify h]
  unfold residualHolds residualOf
  cases hrest : leftover condition leftArity rightArity with
  | nil => rfl
  | cons e rest => exact Expr.holds_conjunction row (e :: rest)

/-- A conjunct that became a pair has the outcome of that pair, and never fails. -/
theorem holds_of_keyPair? {left right : Row} (hleft : left.length = leftArity)
    (hright : right.length = rightArity) {e : Expr} {j k : Nat}
    (hpair : e.keyPair? leftArity (leftArity + rightArity) = some (j, k)) :
    e.holds (left ++ right) =
      .ok ((left.getD j .null).sqlEquals (right.getD k .null)) := by
  obtain ⟨hj, hk, hshape⟩ := Expr.keyPair?_eq_some hpair
  have hwidth : (left ++ right).length = leftArity + rightArity := by
    rw [List.length_append, hleft, hright]
  have hjoinedLeft : (left ++ right).getD j .null = left.getD j .null := by
    simp only [List.getD_eq_getElem?_getD]
    rw [List.getElem?_append_left (by omega)]
  have hjoinedRight : (left ++ right).getD (leftArity + k) .null = right.getD k .null := by
    simp only [List.getD_eq_getElem?_getD]
    rw [List.getElem?_append_right (by omega), hleft, Nat.add_sub_cancel_left]
  rcases hshape with rfl | rfl
  · rw [Expr.holds_columnsEqual (by omega) (by omega), hjoinedLeft, hjoinedRight]
  · rw [Expr.holds_columnsEqual (by omega) (by omega), hjoinedLeft, hjoinedRight,
      Value.sqlEquals_comm]

theorem pairTruths_true_iff (h : classify condition leftArity rightArity = .ok d)
    {left right : Row} (hleft : left.length = leftArity) (hright : right.length = rightArity) :
    (∀ t ∈ d.pairTruths left right, t = .true) ↔
      ∀ e ∈ condition.conjuncts, (e.keyPair? leftArity (leftArity + rightArity)).isSome →
        e.holds (left ++ right) = .ok .true := by
  unfold pairTruths
  rw [zip_keys_of_classify h]
  constructor
  · intro htrue e member hsome
    obtain ⟨⟨j, k⟩, hpair⟩ := Option.isSome_iff_exists.mp hsome
    rw [holds_of_keyPair? hleft hright hpair]
    exact congrArg Except.ok (htrue _ (List.mem_map.mpr
      ⟨(j, k), List.mem_filterMap.mpr ⟨e, member, hpair⟩, rfl⟩))
  · intro htrue t member
    obtain ⟨⟨j, k⟩, hmem, rfl⟩ := List.mem_map.mp member
    obtain ⟨e, hconjunct, hpair⟩ := List.mem_filterMap.mp hmem
    have hholds := htrue e hconjunct (by rw [hpair]; rfl)
    rw [holds_of_keyPair? hleft hright hpair] at hholds
    exact Except.ok.inj hholds

/-- Where all pairs are true, the residual has the outcome of the whole condition. -/
theorem holds_eq_residualHolds (h : classify condition leftArity rightArity = .ok d)
    {left right : Row} (hleft : left.length = leftArity) (hright : right.length = rightArity)
    (hpairs : ∀ t ∈ d.pairTruths left right, t = .true) :
    condition.holds (left ++ right) = d.residualHolds (left ++ right) := by
  rw [residualHolds_of_classify h, ← Expr.allTrue_conjuncts]
  refine (Expr.allTrue_filter _ _ _ ?_).symm
  intro e member hdropped
  apply (pairTruths_true_iff h hleft hright).mp hpairs e member
  simpa using hdropped

theorem holds_true_iff (h : classify condition leftArity rightArity = .ok d)
    {left right : Row} (hleft : left.length = leftArity) (hright : right.length = rightArity) :
    condition.holds (left ++ right) = .ok .true ↔
      (∀ t ∈ d.pairTruths left right, t = .true) ∧
        d.residualHolds (left ++ right) = .ok .true := by
  constructor
  · intro htrue
    have hall := htrue
    rw [← Expr.allTrue_conjuncts, Expr.allTrue_eq_true_iff] at hall
    have hpairs := (pairTruths_true_iff h hleft hright).mpr fun e member _ => hall e member
    exact ⟨hpairs, holds_eq_residualHolds h hleft hright hpairs ▸ htrue⟩
  · rintro ⟨hpairs, hresidual⟩
    rw [holds_eq_residualHolds h hleft hright hpairs, hresidual]

/-- Splitting a condition into key pairs and residual keeps its meaning on every pair of rows
of the two arities. The keys are positions of their own rows, paired one to one. The condition
is true exactly where all pairs and the residual are; where all pairs are true it has the
outcome of the residual, failures included; and where some pair is false or unknown it is not
true, though it may fail. -/
theorem classify_preserves_meaning
    (h : classify condition leftArity rightArity = .ok d)
    {left right : Row} (hleft : left.length = leftArity) (hright : right.length = rightArity) :
    (d.leftKeys.length = d.rightKeys.length ∧
      (∀ j ∈ d.leftKeys, j < left.length) ∧ (∀ k ∈ d.rightKeys, k < right.length)) ∧
    (condition.holds (left ++ right) = .ok .true ↔
      (∀ t ∈ d.pairTruths left right, t = .true) ∧
        d.residualHolds (left ++ right) = .ok .true) ∧
    ((∀ t ∈ d.pairTruths left right, t = .true) →
      condition.holds (left ++ right) = d.residualHolds (left ++ right)) ∧
    ((∃ t ∈ d.pairTruths left right, t = .false ∨ t = .unknown) →
      condition.holds (left ++ right) ≠ .ok .true) := by
  refine ⟨⟨?_, ?_, ?_⟩, holds_true_iff h hleft hright,
    holds_eq_residualHolds h hleft hright, ?_⟩
  · rw [eq_of_classify h]
    simp
  · simpa only [hleft] using leftKeys_lt h
  · simpa only [hright] using rightKeys_lt h
  · rintro ⟨t, member, ht⟩ htrue
    have hpair := ((holds_true_iff h hleft hright).mp htrue).1 t member
    rcases ht with rfl | rfl <;> cases hpair

end

/-- Where the pairs are equal, a nested condition fails as its residual does. -/
theorem nested_condition_fails_as_residual :
    let condition : Expr :=
      .and [.compare .lt (.column 1) (.column 3), .and [.columnsEqual 2 0]]
    let left : Row := [.int32 1, .int32 5]
    let right : Row := [.int64 1, .string "x"]
    ∃ d e, classify condition 2 2 = .ok d ∧ d.pairTruths left right = [.true] ∧
      condition.holds (left ++ right) = .error e ∧ d.residualHolds (left ++ right) = .error e := by
  intro condition left right
  let d : JoinDescriptor :=
    ⟨[0], [0], some (.compare .lt (.column 1) (.column 3)), condition, 2, 2⟩
  have hclassify : classify condition 2 2 = .ok d := rfl
  have hleft : left.length = 2 := rfl
  have hright : right.length = 2 := rfl
  have hpairs : d.pairTruths left right = [.true] := by decide +kernel
  obtain ⟨-, -, hsame, -⟩ := classify_preserves_meaning hclassify hleft hright
  exact ⟨d, _, hclassify, hpairs, hsame (by simp [hpairs]), rfl⟩

end JoinDescriptor

end JoinEngine
