import JoinEngine.Proofs.Condition.Classified
import JoinEngine.Proofs.Exec.OnAndWhere

/-!
Joins on shared columns. Pairs of a left and a right column stand for the conjunction of their
equalities over the joined row, and splitting that conjunction gives the pairs back: in their
order, as often as they are listed, with nothing left over. An equality of two columns that are
there never fails, so joining on shared columns fails for no condition, and the rows it gives are
those on which every pair is equal.
-/

namespace JoinEngine

namespace JoinDescriptor

def PairsWithin (pairs : List (Nat × Nat)) (leftArity rightArity : Nat) : Prop :=
  ∀ pair ∈ pairs, pair.1 < leftArity ∧ pair.2 < rightArity

def pairEqualities (leftArity : Nat) (pairs : List (Nat × Nat)) : List Expr :=
  pairs.map (pairEquality leftArity)

/-- The values of each pair of columns are equal. -/
def PairsEqual (pairs : List (Nat × Nat)) (left right : Row) : Prop :=
  ∀ pair ∈ pairs, (left.getD pair.1 .null).sqlEquals (right.getD pair.2 .null) = .true

instance (pairs : List (Nat × Nat)) (left right : Row) : Decidable (PairsEqual pairs left right) :=
  inferInstanceAs (Decidable (∀ pair ∈ pairs, _))

variable {condition : Expr} {pairs : List (Nat × Nat)} {leftArity rightArity : Nat}
  {d : JoinDescriptor}

theorem pairOutside?_eq_none_iff :
    pairOutside? leftArity rightArity pairs = none ↔ PairsWithin pairs leftArity rightArity := by
  unfold pairOutside? PairsWithin
  rw [List.find?_eq_none]
  refine forall₂_congr fun pair _ => ?_
  simp

/-- Equalities are conjuncts already, and those of a single pair are its equality. -/
theorem conjuncts_pairEqualities (leftArity : Nat) (pairs : List (Nat × Nat)) :
    (Expr.conjunction (pairEqualities leftArity pairs)).conjuncts = pairEqualities leftArity pairs ∧
      (Expr.and (pairEqualities leftArity pairs)).conjuncts = pairEqualities leftArity pairs := by
  have hflat : (pairEqualities leftArity pairs).flatMap Expr.conjuncts =
      pairEqualities leftArity pairs :=
    Expr.flatMap_conjuncts_of_ne_and (List.forall_mem_map.mpr fun _ _ _ => Expr.noConfusion)
  exact ⟨(Expr.conjuncts_conjunction _).trans hflat, (Expr.conjunctsOf_eq _).trans hflat⟩

/-- A condition whose conjuncts are the equalities of pairs is split into these pairs. -/
theorem classify_of_equalities (hwithin : PairsWithin pairs leftArity rightArity)
    (hconjuncts : condition.conjuncts = pairEqualities leftArity pairs) :
    classify condition leftArity rightArity =
      .ok ⟨pairs.map Prod.fst, pairs.map Prod.snd, none, condition, leftArity, rightArity⟩ := by
  have hcolumns : condition.Within (leftArity + rightArity) := by
    intro i member
    rw [← Expr.references_conjuncts, hconjuncts, List.mem_flatMap] at member
    obtain ⟨e, he, hi⟩ := member
    obtain ⟨pair, hpair, rfl⟩ := List.mem_map.mp he
    have hbounds := hwithin pair hpair
    simp only [pairEquality, Expr.columnsEqual, Expr.references, List.mem_append,
      List.mem_singleton] at hi
    omega
  have hnothing : leftover (.and []) leftArity rightArity = [] := rfl
  have hpaired : condition.conjuncts =
      pairs.map (pairEquality leftArity) ++ leftover (.and []) leftArity rightArity := by
    rw [hconjuncts, hnothing, List.append_nil]
    rfl
  obtain ⟨hpairs, hrest⟩ := keyPairs_of_conjuncts pairs hwithin hpaired
  rw [classify_eq_ok hcolumns, hpairs, hrest, hnothing]
  rfl

/-- Pairs within the two rows are joined on as their equalities are, and no others. -/
theorem ofUsing_eq_ok_iff : ofUsing pairs leftArity rightArity = .ok d ↔
    (pairs ≠ [] ∧ PairsWithin pairs leftArity rightArity) ∧
      classify (Expr.conjunction (pairEqualities leftArity pairs)) leftArity rightArity =
        .ok d := by
  unfold ofUsing
  rw [check_eq_ok_iff, ← pairOutside?_eq_none_iff, List.isEmpty_iff, and_assoc]
  apply and_congr_right
  intro _
  cases pairOutside? leftArity rightArity pairs with
  | some pair => simp
  | none => simp only [true_and]; rfl

/-- An equality of a left and a right column has the truth of the two values, and never fails. -/
theorem holds_pairEquality {left right : Row} (hleft : left.length = leftArity)
    (hright : right.length = rightArity) {pair : Nat × Nat} (hpair : pair.1 < leftArity)
    (hother : pair.2 < rightArity) :
    (pairEquality leftArity pair).holds (left ++ right) =
      .ok ((left.getD pair.1 .null).sqlEquals (right.getD pair.2 .null)) :=
  holds_of_keyPair? hleft hright (Expr.keyPair?_eq_some_iff.mpr ⟨hpair, hother, Or.inl rfl⟩)

section

variable {left right : Row} (hleft : left.length = leftArity) (hright : right.length = rightArity)
  (hwithin : PairsWithin pairs leftArity rightArity)
  (hconjuncts : condition.conjuncts = pairEqualities leftArity pairs)

include hleft hright hwithin hconjuncts

/-- Equalities of columns that are there have a truth on every joined row. -/
theorem exists_holds_of_equalities : ∃ t, condition.holds (left ++ right) = .ok t := by
  rw [← Expr.allTrue_conjuncts, hconjuncts]
  clear hconjuncts
  induction pairs with
  | nil => exact ⟨.true, rfl⟩
  | cons pair rest ih =>
      obtain ⟨hpair, hrest⟩ := List.forall_mem_cons.mp hwithin
      obtain ⟨t, ht⟩ := ih hrest
      rw [pairEqualities, List.map_cons, Expr.allTrue_cons,
        holds_pairEquality hleft hright hpair.1 hpair.2]
      change ∃ u, Ternary.andThen _ (Expr.allTrue _ (pairEqualities leftArity rest)) = .ok u
      rw [ht]
      cases (left.getD pair.1 .null).sqlEquals (right.getD pair.2 .null) <;> exact ⟨_, rfl⟩

/-- The equalities are true together exactly where all pairs are equal. -/
theorem accepts_iff_pairsEqual :
    condition.accepts (left ++ right) = true ↔ PairsEqual pairs left right := by
  rw [Expr.accepts_iff, ← Expr.allTrue_conjuncts, hconjuncts, Expr.allTrue_eq_true_iff,
    pairEqualities, List.forall_mem_map]
  refine forall₂_congr fun pair member => ?_
  obtain ⟨hpair, hother⟩ := hwithin pair member
  rw [holds_pairEquality hleft hright hpair hother, Except.ok.injEq]

end

/-- The nested loop over equalities of columns gives the right rows that are equal in all pairs. -/
theorem nestedLoop_of_equalities {left : Row} {rows : List Row} (hleft : left.length = leftArity)
    (hrows : ∀ right ∈ rows, right.length = rightArity)
    (hwithin : PairsWithin pairs leftArity rightArity)
    (hconjuncts : condition.conjuncts = pairEqualities leftArity pairs) :
    nestedLoop condition left rows =
      (rows.filter fun right => decide (PairsEqual pairs left right)).map (left ++ ·) := by
  unfold nestedLoop
  rw [List.filter_map]
  apply congrArg
  apply List.filter_congr
  intro right member
  rw [Bool.eq_iff_iff, decide_eq_true_iff]
  exact accepts_iff_pairsEqual hleft (hrows right member) hwithin hconjuncts

end JoinDescriptor

namespace JoinStage

variable [KeyHasher] {stage : JoinStage} {condition : Expr} {leftArity : Nat}
  {right : RightRelation} {config : JoinConfig} {rows : List Row} {left : Row} {s : ProbeState}

/-- On a live query over a relation in memory, a probe that succeeds joins a left row as the nested
loop does, up to order. It succeeds if the condition has a truth with every right row and a side to
be made is within its limit. -/
theorem JoinsOn.probeRow_perm (h : stage.JoinsOn condition leftArity right config)
    (hmemory : right.InMemory rows) (hleft : left.length = leftArity) (hlive : s.session.Live)
    (hsite : stage.Reached s.site) :
    (∀ t, stage.probeRow left s = (.ok (), t) →
      ∃ emitted, t.emitted.toList = s.emitted.toList ++ emitted ∧
        emitted.Perm (nestedLoop condition left rows)) ∧
    ((∀ row ∈ rows, ∃ truth, condition.holds (left ++ row) = .ok truth) →
      (stage.access = .materialized → rows.length ≤ BuildSide.rowLimit config) →
      ∃ t, stage.probeRow left s = (.ok (), t)) := by
  obtain ⟨found, hsteady, hfinds⟩ := hmemory.steady
  obtain ⟨hmade, -, hwidth, rfl, -⟩ := h.made
  have hslot := hsite.slotHolds hsteady.agrees
  obtain ⟨t, hrun, -, hemitted⟩ :=
    probeRow_emits hsteady hmade.arity (hleft.trans hwidth.symm) s ⟨hlive, hslot⟩
  constructor
  · intro u hu
    rw [hrun] at hu
    obtain ⟨hok, rfl⟩ := Prod.mk.inj hu
    cases hjoined : stage.joinRow rows found left with
    | error e =>
        rw [hjoined] at hok
        cases hok
    | ok joined => exact ⟨joined, hemitted joined hjoined, h.perm hsteady hfinds hleft hjoined⟩
  · intro htotal hlimit
    obtain ⟨joined, hjoined⟩ := h.joinRow_of_total hsteady hfinds hleft htotal hlimit
    rw [hjoined] at hrun
    exact ⟨t, hrun⟩

end JoinStage

namespace JoinDescriptor

/-- A join on shared columns is the join on their equalities. It can be made exactly of some pairs
that are each of a column of the left row and a column of the right row. Its keys are the pairs, in
their order and as often as they are listed, it has no residual, and it is what splitting the
conjunction of the equalities gives; if a single equality is written as a conjunction too, only the
condition that is kept differs. Over a relation in memory, at any site the stage can come to and
while the query is live, a left row is joined to the right rows that are equal to it in every pair,
as often as they are stored, and that succeeds if a side to be materialized is within its limit. -/
theorem shared_columns_join_on_equalities [KeyHasher] (pairs : List (Nat × Nat))
    (leftArity rightArity : Nat) :
    ((∃ d, ofUsing pairs leftArity rightArity = .ok d) ↔
      pairs ≠ [] ∧ ∀ pair ∈ pairs, pair.1 < leftArity ∧ pair.2 < rightArity) ∧
    ∀ d, ofUsing pairs leftArity rightArity = .ok d →
      (d.leftKeys = pairs.map Prod.fst ∧ d.rightKeys = pairs.map Prod.snd ∧
        d.residual = none) ∧
      (classify (Expr.conjunction (pairEqualities leftArity pairs)) leftArity rightArity = .ok d ∧
        classify (.and (pairEqualities leftArity pairs)) leftArity rightArity =
          .ok { d with condition := .and (pairEqualities leftArity pairs) }) ∧
      ∀ (right : RightRelation) (rows : List Row) (config : JoinConfig) (relation : Nat)
        (stage : JoinStage) (left : Row) (s : ProbeState), right.InMemory rows →
        JoinStage.create d right config relation = .ok stage → left.length = leftArity →
        s.session.Live → stage.Reached s.site →
        (∀ t, stage.probeRow left s = (.ok (), t) →
          ∃ emitted, t.emitted.toList = s.emitted.toList ++ emitted ∧
            emitted.Perm
              ((rows.filter fun right => decide (PairsEqual pairs left right)).map (left ++ ·))) ∧
        ((stage.access = .materialized → rows.length ≤ BuildSide.rowLimit config) →
          ∃ t, stage.probeRow left s = (.ok (), t)) := by
  obtain ⟨hplain, hwritten⟩ := conjuncts_pairEqualities leftArity pairs
  constructor
  · constructor
    · rintro ⟨d, hd⟩
      exact (ofUsing_eq_ok_iff.mp hd).1
    · rintro ⟨hsome, hwithin⟩
      exact ⟨_, ofUsing_eq_ok_iff.mpr ⟨⟨hsome, hwithin⟩, classify_of_equalities hwithin hplain⟩⟩
  intro d hd
  obtain ⟨⟨-, hwithin⟩, hclassify⟩ := ofUsing_eq_ok_iff.mp hd
  have hsplit := classify_of_equalities hwithin hplain
  obtain rfl := Except.ok.inj (hclassify.symm.trans hsplit)
  refine ⟨⟨rfl, rfl, rfl⟩, ⟨hclassify, classify_of_equalities hwithin hwritten⟩, ?_⟩
  intro right rows config relation stage left s hmemory hcreate hleft hlive hsite
  have hjoins : stage.JoinsOn (Expr.conjunction (pairEqualities leftArity pairs)) leftArity right
      config :=
    ⟨rightArity, _, relation, hclassify, hcreate⟩
  have hrows : ∀ row ∈ rows, row.length = rightArity := by
    obtain ⟨found, hsteady, -⟩ := hmemory.steady
    obtain ⟨-, harity, -⟩ := JoinStage.create_eq_ok_iff.mp hcreate
    exact fun row member => (hsteady.arities row member).trans harity
  rw [← nestedLoop_of_equalities hleft hrows hwithin hplain]
  obtain ⟨hemits, hsucceeds⟩ := hjoins.probeRow_perm hmemory hleft hlive hsite
  exact ⟨hemits, hsucceeds fun row member =>
    exists_holds_of_equalities hleft (hrows row member) hwithin hplain⟩

/-- A pair listed twice, the last columns of both rows, and numbers of several kinds that are
equal. -/
theorem shared_columns_of_repeated_pairs :
    let pairs : List (Nat × Nat) := [(1, 0), (0, 2), (1, 0)]
    let left : Row := [.int32 1, .int64 2]
    let equal : Row := [.int32 2, .null, .int64 1]
    let mixed : Row := [.float64 (Double.ofInt 2), .string "x", .int32 1]
    let rows : List Row := [equal, [.int64 2, .null, .null], mixed, [.int64 2, .null, .int32 2]]
    ∃ d r stage t, ofUsing pairs 2 3 = .ok d ∧ d.leftKeys.zip d.rightKeys = pairs ∧
      d.residual = none ∧ MemoryRelation.ofRows "r" 3 rows false = .ok r ∧
      JoinStage.create d (.bounded r.source) {} 0 = .ok stage ∧
      stage.probeRow left ⟨{}, {}, #[]⟩ = (.ok (), t) ∧
      t.emitted.toList.Perm [left ++ equal, left ++ mixed] := by
  intro pairs left equal mixed rows
  let d : JoinDescriptor :=
    ⟨[1, 0, 1], [0, 2, 0], none, .and (pairEqualities 2 pairs), 2, 3⟩
  have hd : ofUsing pairs 2 3 = .ok d := rfl
  obtain ⟨-, hjoined⟩ := shared_columns_join_on_equalities pairs 2 3
  obtain ⟨⟨-, -, hresidual⟩, -, hprobe⟩ := hjoined d hd
  have hrelation : MemoryRelation.ofRows "r" 3 rows false = .ok ⟨"r", 3, rows, false⟩ := rfl
  have hcreate : JoinStage.create d (.bounded (MemoryRelation.source ⟨"r", 3, rows, false⟩)) {} 0 =
      .ok _ := rfl
  have hlive : (ProbeState.mk {} {} #[]).session.Live := ⟨rfl, fun n h => nomatch h⟩
  obtain ⟨hemits, htotal⟩ :=
    hprobe _ rows {} 0 _ left ⟨{}, {}, #[]⟩ (.bounded hrelation) hcreate rfl hlive .fresh
  obtain ⟨t, hrun⟩ := htotal fun _ => by decide +kernel
  obtain ⟨emitted, hemitted, hperm⟩ := hemits t hrun
  have hequal : (rows.filter fun right => decide (PairsEqual pairs left right)) =
      [equal, mixed] := by
    decide +kernel
  refine ⟨d, _, _, t, hd, rfl, hresidual, hrelation, hcreate, hrun, ?_⟩
  rw [hemitted]
  rw [hequal] at hperm
  exact hperm

end JoinDescriptor

end JoinEngine
