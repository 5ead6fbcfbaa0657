import JoinEngine.Proofs.Condition.Meaning
import JoinEngine.Proofs.Expr.Columns
import Mathlib.Data.List.Basic

/-!
What splitting a condition gives, in terms of its shape. `Flattened` reads nested conjunctions
from left to right, and `Splits` sorts the conjuncts into pairs of columns and the rest, each kept
in order. No conjunct is itself a conjunction, so the residual has the rest as its conjuncts; this
makes splitting stable: the residual has no pair left in it, and the pairs written out before the
residual are split into the same parts again.
-/

namespace JoinEngine

namespace Expr

/-- Flattening a list of conditions from the left. A conjunction gives way to its operands, and
any other expression is a conjunct. -/
inductive Flattened : List Expr → List Expr → Prop where
  | nil : Flattened [] []
  | and {operands rest conjuncts : List Expr} :
      Flattened (operands ++ rest) conjuncts → Flattened (.and operands :: rest) conjuncts
  | conjunct {e : Expr} {rest conjuncts : List Expr} :
      (∀ operands, e ≠ .and operands) → Flattened rest conjuncts →
      Flattened (e :: rest) (e :: conjuncts)

theorem Flattened.ne_and {items conjuncts : List Expr} (h : Flattened items conjuncts) :
    ∀ e ∈ conjuncts, ∀ operands, e ≠ .and operands := by
  induction h with
  | nil => simp
  | and _ ih => exact ih
  | conjunct hleaf _ ih => exact List.forall_mem_cons.mpr ⟨hleaf, ih⟩

mutual

theorem Flattened.conjuncts_append (e : Expr) {rest others : List Expr}
    (h : Flattened rest others) : Flattened (e :: rest) (e.conjuncts ++ others) := by
  cases e with
  | and operands => exact .and (h.conjunctsOf_append operands)
  | _ => exact .conjunct (fun _ => Expr.noConfusion) h

theorem Flattened.conjunctsOf_append (operands : List Expr) {rest others : List Expr}
    (h : Flattened rest others) :
    Flattened (operands ++ rest) (conjunctsOf operands ++ others) := by
  cases operands with
  | nil => exact h
  | cons e operands =>
      rw [conjunctsOf, List.append_assoc]
      exact (h.conjunctsOf_append operands).conjuncts_append e

end

theorem conjunctsOf_eq (operands : List Expr) :
    conjunctsOf operands = operands.flatMap conjuncts := by
  induction operands with
  | nil => rfl
  | cons e rest ih => rw [conjunctsOf, ih, List.flatMap_cons]

/-- Flattening gives the conjuncts of the conditions, one after the other. -/
theorem flattened_flatMap (items : List Expr) : Flattened items (items.flatMap conjuncts) := by
  simpa [conjunctsOf_eq] using Flattened.nil.conjunctsOf_append items

theorem flattened_conjuncts (e : Expr) : Flattened [e] e.conjuncts := by
  simpa using flattened_flatMap [e]

theorem ne_and_of_mem_conjuncts {condition e : Expr} (member : e ∈ condition.conjuncts) :
    ∀ operands, e ≠ .and operands :=
  (flattened_conjuncts condition).ne_and e member

theorem conjuncts_conjunction (operands : List Expr) :
    (conjunction operands).conjuncts = operands.flatMap conjuncts := by
  unfold conjunction
  split
  · exact (List.flatMap_singleton _ _).symm
  · exact conjunctsOf_eq operands

/-- Expressions that are no conjunctions are their own conjuncts. -/
theorem flatMap_conjuncts_of_ne_and {items : List Expr}
    (h : ∀ e ∈ items, ∀ operands, e ≠ .and operands) : items.flatMap conjuncts = items := by
  induction items with
  | nil => rfl
  | cons e rest ih =>
      have hown : e.conjuncts = [e] := by
        cases e with
        | and operands => exact absurd rfl (h _ List.mem_cons_self operands)
        | _ => rfl
      rw [List.flatMap_cons, hown, ih fun other member => h other (List.mem_cons_of_mem e member)]
      rfl

/-- The conjunct equates a left with a right column, written either way round. -/
def Equates (leftArity rightArity : Nat) (e : Expr) (pair : Nat × Nat) : Prop :=
  pair.1 < leftArity ∧ pair.2 < rightArity ∧
    (e = columnsEqual pair.1 (leftArity + pair.2) ∨ e = columnsEqual (leftArity + pair.2) pair.1)

theorem keyPair?_eq_some_iff {leftArity rightArity : Nat} {e : Expr} {pair : Nat × Nat} :
    e.keyPair? leftArity (leftArity + rightArity) = some pair ↔
      e.Equates leftArity rightArity pair := by
  constructor
  · intro h
    obtain ⟨hleft, hright, hshape⟩ := keyPair?_eq_some h
    exact ⟨hleft, by omega, hshape⟩
  · rintro ⟨hleft, hright, rfl | rfl⟩
    · have hwidth : leftArity + pair.2 < leftArity + rightArity := by omega
      simp [keyPair?, columnsEqual, hleft, hwidth]
    · have hwidth : leftArity + pair.2 < leftArity + rightArity := by omega
      have hbeyond : ¬ leftArity + pair.2 < leftArity := by omega
      simp [keyPair?, columnsEqual, hleft, hwidth, hbeyond]

/-- Sorting conjuncts in their order: those that equate a left with a right column give a pair,
and all others are the rest. -/
inductive Splits (leftArity rightArity : Nat) :
    List Expr → List (Nat × Nat) → List Expr → Prop where
  | nil : Splits leftArity rightArity [] [] []
  | pair {e : Expr} {pair : Nat × Nat} {conjuncts : List Expr} {pairs : List (Nat × Nat)}
      {rest : List Expr} :
      e.Equates leftArity rightArity pair → Splits leftArity rightArity conjuncts pairs rest →
      Splits leftArity rightArity (e :: conjuncts) (pair :: pairs) rest
  | rest {e : Expr} {conjuncts : List Expr} {pairs : List (Nat × Nat)} {rest : List Expr} :
      (∀ pair, ¬ e.Equates leftArity rightArity pair) →
      Splits leftArity rightArity conjuncts pairs rest →
      Splits leftArity rightArity (e :: conjuncts) pairs (e :: rest)

theorem splits_keyPair? (leftArity rightArity : Nat) (conjuncts : List Expr) :
    Splits leftArity rightArity conjuncts
      (conjuncts.filterMap (keyPair? leftArity (leftArity + rightArity)))
      (conjuncts.filter fun e => (e.keyPair? leftArity (leftArity + rightArity)).isNone) := by
  induction conjuncts with
  | nil => exact .nil
  | cons e rest ih =>
      cases hpair : e.keyPair? leftArity (leftArity + rightArity) with
      | some pair =>
          rw [List.filterMap_cons_some hpair, List.filter_cons_of_neg (by simp [hpair])]
          exact .pair (keyPair?_eq_some_iff.mp hpair) ih
      | none =>
          rw [List.filterMap_cons_none hpair, List.filter_cons_of_pos (by simp [hpair])]
          refine .rest (fun pair hequates => ?_) ih
          rw [keyPair?_eq_some_iff.mpr hequates] at hpair
          cases hpair

end Expr

namespace JoinDescriptor

def pairEquality (leftArity : Nat) (pair : Nat × Nat) : Expr :=
  Expr.columnsEqual pair.1 (leftArity + pair.2)

def equalities (d : JoinDescriptor) : List Expr :=
  (d.leftKeys.zip d.rightKeys).map (pairEquality d.leftArity)

def recomposed (d : JoinDescriptor) : Expr :=
  Expr.conjunction (d.equalities ++ d.residual.toList)

section

variable {condition : Expr} {leftArity rightArity : Nat} {d : JoinDescriptor}

theorem leftover_ne_and :
    ∀ e ∈ leftover condition leftArity rightArity, ∀ operands, e ≠ .and operands := by
  intro e member
  exact Expr.ne_and_of_mem_conjuncts (List.mem_filter.mp member).1

/-- No pair is left in what is left over. -/
theorem keyPair?_of_mem_leftover {e : Expr} (member : e ∈ leftover condition leftArity rightArity) :
    e.keyPair? leftArity (leftArity + rightArity) = none := by
  simpa using (List.mem_filter.mp member).2

/-- A condition made of equalities of pairs and of what is left over of another is split into
these. -/
theorem keyPairs_of_conjuncts {other : Expr} (pairs : List (Nat × Nat))
    (hbounds : ∀ pair ∈ pairs, pair.1 < leftArity ∧ pair.2 < rightArity)
    (hconjuncts : other.conjuncts =
      pairs.map (pairEquality leftArity) ++ leftover condition leftArity rightArity) :
    keyPairs other leftArity rightArity = pairs ∧
      leftover other leftArity rightArity = leftover condition leftArity rightArity := by
  have hpair : ∀ pair ∈ pairs,
      (pairEquality leftArity pair).keyPair? leftArity (leftArity + rightArity) = some pair := by
    intro pair member
    obtain ⟨hleft, hright⟩ := hbounds pair member
    exact Expr.keyPair?_eq_some_iff.mpr ⟨hleft, hright, Or.inl rfl⟩
  constructor
  · rw [keyPairs, hconjuncts, List.filterMap_append, List.filterMap_map]
    have hfirst : pairs.filterMap (Expr.keyPair? leftArity (leftArity + rightArity) ∘
        pairEquality leftArity) = pairs.filterMap some :=
      List.filterMap_congr hpair
    have hsecond : (leftover condition leftArity rightArity).filterMap
        (Expr.keyPair? leftArity (leftArity + rightArity)) = [] := by
      rw [List.filterMap_eq_nil_iff]
      exact fun e member => keyPair?_of_mem_leftover member
    rw [hfirst, hsecond, List.filterMap_some, List.append_nil]
  · rw [leftover, hconjuncts, List.filter_append]
    have hfirst : (pairs.map (pairEquality leftArity)).filter
        (fun e => (e.keyPair? leftArity (leftArity + rightArity)).isNone) = [] := by
      rw [List.filter_eq_nil_iff, List.forall_mem_map]
      intro pair member
      simp [hpair pair member]
    have hsecond : (leftover condition leftArity rightArity).filter
        (fun e => (e.keyPair? leftArity (leftArity + rightArity)).isNone) =
          leftover condition leftArity rightArity := by
      rw [List.filter_eq_self]
      intro e member
      simp [keyPair?_of_mem_leftover member]
    rw [hfirst, hsecond, List.nil_append]

theorem exists_classify_error_iff :
    (∃ e, classify condition leftArity rightArity = .error e) ↔
      ∃ column ∈ condition.references, leftArity + rightArity ≤ column := by
  have hok : (∃ d, classify condition leftArity rightArity = .ok d) ↔
      condition.Within (leftArity + rightArity) := exists_classify_iff
  cases hclassify : classify condition leftArity rightArity with
  | ok d =>
      have hwithin := hok.mp ⟨d, hclassify⟩
      simpa [Expr.Within] using hwithin
  | error e =>
      have hbeyond : ¬ condition.Within (leftArity + rightArity) := by simp [← hok, hclassify]
      simpa [Expr.Within] using hbeyond

/-- A condition within the joined row is split into its pairs and what is left over. -/
theorem classify_eq_ok (h : condition.Within (leftArity + rightArity)) :
    classify condition leftArity rightArity =
      .ok ⟨(keyPairs condition leftArity rightArity).map (·.1),
        (keyPairs condition leftArity rightArity).map (·.2),
        residualOf (leftover condition leftArity rightArity), condition, leftArity,
        rightArity⟩ := by
  obtain ⟨d, hd⟩ := exists_classify_iff.mpr h
  rw [hd, eq_of_classify hd]

variable (h : classify condition leftArity rightArity = .ok d)

include h

theorem residual_of_classify :
    d.residual = residualOf (leftover condition leftArity rightArity) := by
  rw [eq_of_classify h]

/-- What is left over is found again in the residual. -/
theorem conjuncts_residual :
    d.residual.toList.flatMap Expr.conjuncts = leftover condition leftArity rightArity := by
  rw [residual_of_classify h]
  unfold residualOf
  split
  next hempty => rw [List.isEmpty_iff.mp hempty]; rfl
  next =>
    rw [Option.toList_some, List.flatMap_singleton, Expr.conjuncts_conjunction,
      Expr.flatMap_conjuncts_of_ne_and leftover_ne_and]

theorem residual_eq_none_iff :
    d.residual = none ↔ leftover condition leftArity rightArity = [] := by
  rw [residual_of_classify h]
  unfold residualOf
  split
  next hempty => simpa using hempty
  next hrest => simpa using hrest

theorem equalities_of_classify :
    d.equalities = (keyPairs condition leftArity rightArity).map (pairEquality leftArity) := by
  unfold equalities
  rw [zip_keys_of_classify h, eq_of_classify h]

/-- Splitting the residual gives no pair and the residual itself. -/
theorem classify_residual {residual : Expr} (hresidual : d.residual = some residual) :
    classify residual leftArity rightArity =
      .ok ⟨[], [], some residual, residual, leftArity, rightArity⟩ := by
  have hwithin : residual.Within (leftArity + rightArity) := by
    have hboth := (within_of_classify h).residual residual hresidual
    rwa [eq_of_classify h] at hboth
  have hconjuncts : residual.conjuncts = leftover condition leftArity rightArity := by
    have hrest := conjuncts_residual h
    rw [hresidual, Option.toList_some, List.flatMap_singleton] at hrest
    exact hrest
  obtain ⟨hpairs, hleftover⟩ := keyPairs_of_conjuncts [] (by simp) hconjuncts
  rw [classify_eq_ok hwithin, hpairs, hleftover, ← residual_of_classify h, hresidual]
  rfl

/-- Splitting the pairs and the residual put together again gives the same pairs and the same
residual. -/
theorem classify_recomposed :
    classify d.recomposed leftArity rightArity = .ok { d with condition := d.recomposed } := by
  have hbounds : ∀ pair ∈ keyPairs condition leftArity rightArity,
      pair.1 < leftArity ∧ pair.2 < rightArity :=
    fun _ member => key_bounds_of_mem member
  have hwithin : d.recomposed.Within (leftArity + rightArity) := by
    intro i member
    rw [recomposed, Expr.references_conjunction, List.flatMap_append, List.mem_append,
      equalities_of_classify h, List.mem_flatMap, List.mem_flatMap] at member
    rcases member with ⟨e, he, hi⟩ | ⟨residual, hresidual, hi⟩
    · obtain ⟨pair, hpair, rfl⟩ := List.mem_map.mp he
      obtain ⟨hleft, hright⟩ := hbounds pair hpair
      simp only [pairEquality, Expr.columnsEqual, Expr.references, List.mem_append,
        List.mem_singleton] at hi
      omega
    · have hboth := (within_of_classify h).residual residual (Option.mem_toList.mp hresidual) i hi
      rwa [eq_of_classify h] at hboth
  have hconjuncts : d.recomposed.conjuncts =
      (keyPairs condition leftArity rightArity).map (pairEquality leftArity) ++
        leftover condition leftArity rightArity := by
    rw [recomposed, Expr.conjuncts_conjunction, List.flatMap_append, conjuncts_residual h,
      equalities_of_classify h,
      Expr.flatMap_conjuncts_of_ne_and]
    rw [List.forall_mem_map]
    exact fun _ _ _ => Expr.noConfusion
  obtain ⟨hpairs, hleftover⟩ := keyPairs_of_conjuncts _ hbounds hconjuncts
  rw [classify_eq_ok hwithin, hpairs, hleftover]
  simp only [eq_of_classify h]

end

/-- Splitting a condition is exact, keeps the order, and is stable. It fails exactly for a column
beyond the joined row. Otherwise the condition is flattened from the left, and of its conjuncts
those that equate a left with a right column are the pairs and all others the residual, each in
the order of the conjuncts and as often as they occur. Splitting the residual alone gives no pair
and the residual again; splitting the pairs' equalities followed by the residual gives the same
pairs and the same residual. -/
theorem classify_exact (condition : Expr) (leftArity rightArity : Nat) :
    ((∃ e, classify condition leftArity rightArity = .error e) ↔
      ∃ column ∈ condition.references, leftArity + rightArity ≤ column) ∧
    ∀ d, classify condition leftArity rightArity = .ok d →
      (∃ conjuncts rest, Expr.Flattened [condition] conjuncts ∧
        Expr.Splits leftArity rightArity conjuncts (d.leftKeys.zip d.rightKeys) rest ∧
        Expr.Flattened d.residual.toList rest ∧ (d.residual = none ↔ rest = [])) ∧
      (d.leftKeys.length = d.rightKeys.length ∧
        (∀ l ∈ d.leftKeys, l < leftArity) ∧ ∀ r ∈ d.rightKeys, r < rightArity) ∧
      (∀ residual, d.residual = some residual →
        ∃ again, classify residual leftArity rightArity = .ok again ∧
          again.leftKeys = [] ∧ again.rightKeys = [] ∧ again.residual = some residual) ∧
      ∃ again, classify d.recomposed leftArity rightArity = .ok again ∧
        again.leftKeys = d.leftKeys ∧ again.rightKeys = d.rightKeys ∧
        again.residual = d.residual := by
  refine ⟨exists_classify_error_iff, fun d h => ⟨?parts, ?bounds, ?residual, ?recomposed⟩⟩
  case parts =>
    refine ⟨condition.conjuncts, leftover condition leftArity rightArity,
      Expr.flattened_conjuncts condition, ?_, ?_, residual_eq_none_iff h⟩
    · rw [zip_keys_of_classify h]
      exact Expr.splits_keyPair? leftArity rightArity condition.conjuncts
    · rw [← conjuncts_residual h]
      exact Expr.flattened_flatMap d.residual.toList
  case bounds =>
    exact ⟨keys_length_of_classify h, leftKeys_lt h, rightKeys_lt h⟩
  case residual =>
    intro residual hresidual
    exact ⟨_, classify_residual h hresidual, rfl, rfl, rfl⟩
  case recomposed =>
    exact ⟨_, classify_recomposed h, rfl, rfl, rfl⟩

/-- Nested conjunctions, an empty one among them, with boundary columns, an equality written from
right to left, one met twice and one within the left row. -/
theorem classify_exact_nested :
    let condition : Expr :=
      .and [.and [], .and [.columnsEqual 1 2, .and [.compare .lt (.column 0) (.column 4)]],
        .columnsEqual 4 0, .and [.columnsEqual 0 1, .columnsEqual 1 2]]
    let residual : Expr := .and [.compare .lt (.column 0) (.column 4), .columnsEqual 0 1]
    ∃ d, classify condition 2 3 = .ok d ∧
      d.leftKeys.zip d.rightKeys = [(1, 0), (0, 2), (1, 0)] ∧ d.residual = some residual ∧
      ∃ again, classify d.recomposed 2 3 = .ok again ∧
        again.leftKeys = d.leftKeys ∧ again.rightKeys = d.rightKeys ∧
        again.residual = d.residual := by
  intro condition residual
  let d : JoinDescriptor := ⟨[1, 0, 1], [0, 2, 0], some residual, condition, 2, 3⟩
  have hclassify : classify condition 2 3 = .ok d := rfl
  obtain ⟨-, -, -, hagain⟩ := (classify_exact condition 2 3).2 d hclassify
  exact ⟨d, hclassify, rfl, rfl, hagain⟩

end JoinDescriptor

end JoinEngine
