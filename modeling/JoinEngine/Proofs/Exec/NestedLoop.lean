import JoinEngine.Key.Fnv
import JoinEngine.Proofs.Exec.JoinedRows
import JoinEngine.Proofs.Exec.Matching
import JoinEngine.Proofs.Exec.Materialized

/-!
Every way of joining a left row computes the plain nested loop. The loop tests the condition on
the left row joined to each right row in turn. A stage may skip right rows by hash, by lookup or
by unequal keys, and it tests only the residual on those it keeps; the rows it skips are rows on
which the condition is not true, so what is left to tell the ways apart is the order of the rows
and whether a failure of the condition is ever met.
-/

namespace JoinEngine

/-- The condition is true on a row. A condition that fails is not true. -/
def Expr.accepts (condition : Expr) (row : Row) : Bool :=
  match condition.holds row with
  | .ok t => t.isTrue
  | .error _ => false

theorem Expr.accepts_iff {condition : Expr} {row : Row} :
    condition.accepts row = true ↔ condition.holds row = .ok .true := by
  unfold accepts
  cases condition.holds row with
  | error e => simp
  | ok t => simpa using Ternary.isTrue_iff t

/-- The plain nested loop over one left row. -/
def nestedLoop (condition : Expr) (left : Row) (rights : List Row) : List Row :=
  (rights.map (left ++ ·)).filter condition.accepts

section

variable {condition : Expr} {left : Row}

theorem nestedLoop_cons (right : Row) (rights : List Row) :
    nestedLoop condition left (right :: rights) =
      nestedLoop condition left [right] ++ nestedLoop condition left rights := by
  unfold nestedLoop
  rw [← List.filter_append]
  rfl

theorem nestedLoop_reverse (rights : List Row) :
    nestedLoop condition left rights.reverse = (nestedLoop condition left rights).reverse := by
  unfold nestedLoop
  rw [List.map_reverse, List.filter_reverse]

theorem nestedLoop_perm {rights others : List Row} (h : rights.Perm others) :
    (nestedLoop condition left rights).Perm (nestedLoop condition left others) :=
  (h.map _).filter _

/-- Right rows on which the condition is not true may be left out. -/
theorem nestedLoop_filter {keep : Row → Bool} {rights : List Row}
    (h : ∀ right ∈ rights, condition.accepts (left ++ right) = true → keep right = true) :
    nestedLoop condition left (rights.filter keep) = nestedLoop condition left rights := by
  unfold nestedLoop
  rw [List.filter_map, List.filter_map, List.filter_filter]
  apply congrArg
  apply List.filter_congr
  intro right member
  cases haccepts : condition.accepts (left ++ right) with
  | false => simp [haccepts]
  | true => simp [haccepts, h right member haccepts]

/-- Where the condition is true on no right row, the loop gives nothing. -/
theorem nestedLoop_eq_nil {rights : List Row}
    (h : ∀ right ∈ rights, condition.accepts (left ++ right) ≠ true) :
    nestedLoop condition left rights = [] := by
  apply List.filter_eq_nil_iff.mpr
  intro row member
  obtain ⟨right, hright, rfl⟩ := List.mem_map.mp member
  exact h right hright

/-- The outcome for a right row is the loop's, unless it fails where the condition fails. -/
def Follows (condition : Expr) (left : Row) (right : Row)
    (outcome : Except JoinError (List Row)) : Prop :=
  outcome = .ok (nestedLoop condition left [right]) ∨
    (∃ e, outcome = .error e) ∧ ∃ e, condition.holds (left ++ right) = .error e

/-- Outcomes that follow the loop row by row follow it over all rows. -/
theorem flatMapM_follows {rights : List Row} {outcome : Row → Except JoinError (List Row)}
    (h : ∀ right ∈ rights, Follows condition left right (outcome right)) :
    rights.flatMapM outcome = .ok (nestedLoop condition left rights) ∨
      (∃ e, rights.flatMapM outcome = .error e) ∧
        ∃ right ∈ rights, ∃ e, condition.holds (left ++ right) = .error e := by
  induction rights with
  | nil => exact Or.inl rfl
  | cons right rest ih =>
      have hrest := ih fun other member => h other (List.mem_cons_of_mem right member)
      rw [List.flatMapM_cons, nestedLoop_cons]
      rcases h right List.mem_cons_self with hright | ⟨⟨e, he⟩, hfails⟩
      · rw [hright]
        rcases hrest with hrest | ⟨⟨e, he⟩, other, member, hfails⟩
        · rw [hrest]
          exact Or.inl rfl
        · rw [he]
          exact Or.inr ⟨⟨e, rfl⟩, other, List.mem_cons_of_mem right member, hfails⟩
      · rw [he]
        exact Or.inr ⟨⟨e, rfl⟩, right, List.mem_cons_self, hfails⟩

end

namespace JoinStage

variable {stage : JoinStage} {rows : List Row} {left : Row}

theorem tested_follows (condition : Expr) (left right : Row) :
    Follows condition left right (tested (some condition) left right) := by
  cases hholds : condition.holds (left ++ right) with
  | error e => exact Or.inr ⟨⟨e, by simp only [tested, hholds]; rfl⟩, e, hholds⟩
  | ok t =>
      left
      have haccepts : condition.accepts (left ++ right) = t.isTrue := by
        simp only [Expr.accepts, hholds]
      have hloop : nestedLoop condition left [right] =
          if t.isTrue then [left ++ right] else [] := by
        unfold nestedLoop
        rw [List.map_singleton, List.filter_singleton, haccepts]
        cases t.isTrue <;> rfl
      rw [hloop]
      simp only [tested, hholds]
      rfl

theorem tested_residual (d : JoinDescriptor) (left right : Row) :
    tested d.residual left right =
      (d.residualHolds (left ++ right)).map fun t => if t.isTrue then [left ++ right] else [] := by
  unfold tested JoinDescriptor.residualHolds
  cases d.residual <;> rfl

/-- Where the condition is true, the rows match by key. -/
theorem keysMatch_of_accepts (hmade : stage.Made)
    (hleft : left.length = stage.descriptor.leftArity) {right : Row}
    (hright : right.length = stage.descriptor.rightArity)
    (haccepts : stage.descriptor.condition.accepts (left ++ right) = true) :
    stage.keysMatch left right = true := by
  have htrue := Expr.accepts_iff.mp haccepts
  exact keysMatch_iff.mpr
    ((JoinDescriptor.holds_true_iff hmade.classified hleft hright).mp htrue).1

/-- Testing the pairs and then the residual follows the loop over the whole condition. -/
theorem testedEqual_follows (hmade : stage.Made)
    (hleft : left.length = stage.descriptor.leftArity) {right : Row}
    (hright : right.length = stage.descriptor.rightArity) :
    Follows stage.descriptor.condition left right (stage.testedEqual left right) := by
  unfold testedEqual
  cases hmatch : stage.keysMatch left right with
  | true =>
      have hpairs := keysMatch_iff.mp hmatch
      rw [if_pos rfl, tested_residual,
        ← JoinDescriptor.holds_eq_residualHolds hmade.classified hleft hright hpairs]
      exact tested_follows _ left right
  | false =>
      left
      rw [if_neg (by decide), nestedLoop_eq_nil]
      intro other member haccepts
      obtain rfl := List.mem_singleton.mp member
      rw [keysMatch_of_accepts hmade hleft hright haccepts] at hmatch
      cases hmatch

/-- How the rows that a stage emits for one left row compare with those of the loop. -/
structure Ordered (stage : JoinStage) (emitted loop : List Row) : Prop where
  reversed : stage.mode = .hashProbe → stage.access = .materialized → emitted = loop.reverse
  same : stage.mode = .fullScan ∨ stage.access = .rescan → emitted = loop
  perm : emitted.Perm loop

theorem ordered_same {loop : List Row} (h : stage.mode = .fullScan ∨ stage.access = .rescan) :
    stage.Ordered loop loop := by
  refine ⟨fun hmode haccess => ?_, fun _ => rfl, .rfl⟩
  rw [hmode, haccess] at h
  rcases h with h | h <;> cases h

theorem ordered_reversed {loop : List Row} (hmode : stage.mode = .hashProbe)
    (haccess : stage.access = .materialized) : stage.Ordered loop.reverse loop := by
  refine ⟨fun _ _ => rfl, fun h => ?_, List.reverse_perm loop⟩
  rw [hmode, haccess] at h
  rcases h with h | h <;> cases h

theorem ordered_of_perm {emitted loop : List Row} (hmode : stage.mode = .hashProbe)
    (haccess : stage.access = .lookup) (hperm : emitted.Perm loop) :
    stage.Ordered emitted loop := by
  refine ⟨fun _ h => ?_, fun h => ?_, hperm⟩
  · rw [haccess] at h
    cases h
  · rw [hmode, haccess] at h
    rcases h with h | h <;> cases h

/-- An outcome is the loop's up to order, or a failure for which there is a reason: the
condition fails on some right row, or the right rows are too many to be materialized. -/
def LoopOutcome (stage : JoinStage) (rows : List Row) (left : Row)
    (outcome : Except JoinError (List Row)) : Prop :=
  (∃ emitted, outcome = .ok emitted ∧
    stage.Ordered emitted (nestedLoop stage.descriptor.condition left rows)) ∨
  (∃ e, outcome = .error e) ∧
    ((∃ right ∈ rows, ∃ e, stage.descriptor.condition.holds (left ++ right) = .error e) ∨
      stage.access = .materialized ∧ BuildSide.rowLimit stage.config < rows.length)

/-- Following the loop over some of the right rows has the loop's outcome, if that orders the
rows as it should. -/
theorem loopOutcome_of_follows {part : List Row} {outcome : Row → Except JoinError (List Row)}
    (hfollows : ∀ right ∈ part, Follows stage.descriptor.condition left right (outcome right))
    (hsub : ∀ right ∈ part, right ∈ rows)
    (hordered : stage.Ordered (nestedLoop stage.descriptor.condition left part)
      (nestedLoop stage.descriptor.condition left rows)) :
    stage.LoopOutcome rows left (part.flatMapM outcome) := by
  rcases flatMapM_follows hfollows with hok | ⟨herror, right, member, hfails⟩
  · exact Or.inl ⟨_, hok, hordered⟩
  · exact Or.inr ⟨herror, Or.inl ⟨right, hsub right member, hfails⟩⟩

section

variable [KeyHasher]

/-- Rows within the limit make a side that holds them. -/
theorem sideOf_holds (harities : ∀ row ∈ rows, row.length = stage.right.arity)
    (hlimit : rows.length ≤ BuildSide.rowLimit stage.config) :
    ∃ side, stage.sideOf rows = .ok side ∧ side.Holds stage.indexColumns rows := by
  unfold sideOf BuildSide.ofScan
  rw [if_neg (by omega)]
  exact BuildSide.ofRows_holds _ _ (Nat.le_trans hlimit (BuildSide.rowLimit_le _)) harities

theorem sideOf_error (hlimit : BuildSide.rowLimit stage.config < rows.length) :
    stage.sideOf rows =
      .error (.buildLimit stage.right.name (BuildSide.rowLimit stage.config)) := by
  unfold sideOf BuildSide.ofScan
  rw [if_pos hlimit]

variable {found : List Value → Except JoinError (List Row)}

theorem joinAll_loopOutcome (hmade : stage.Made) (hsteady : stage.right.Steady rows found)
    (hmode : stage.mode = .fullScan) : stage.LoopOutcome rows left (stage.joinAll rows left) := by
  have hall : stage.LoopOutcome rows left
      (rows.flatMapM (tested (some stage.descriptor.condition) left)) := by
    apply loopOutcome_of_follows
    · exact fun right _ => tested_follows _ left right
    · exact fun right member => member
    · exact ordered_same (Or.inl hmode)
  unfold joinAll scanned
  cases haccess : stage.access with
  | rescan => exact hall
  | lookup =>
      obtain ⟨source, -, hhash, -⟩ := hmade.lookup_source haccess
      rw [hmode] at hhash
      cases hhash
  | materialized =>
      by_cases hlimit : rows.length ≤ BuildSide.rowLimit stage.config
      · obtain ⟨side, hside, hholds⟩ := sideOf_holds hsteady.arities hlimit
        rw [hside]
        have hrows := hholds.arena.rows
        change stage.LoopOutcome rows left (List.flatMapM _ side.arena.rows)
        rw [hrows]
        exact hall
      · have hover : BuildSide.rowLimit stage.config < rows.length := by omega
        rw [sideOf_error hover]
        exact Or.inr ⟨⟨_, rfl⟩, Or.inr ⟨haccess, hover⟩⟩

section

variable (hmade : stage.Made) (hleft : left.length = stage.descriptor.leftArity)
  (hwidth : ∀ right ∈ rows, right.length = stage.descriptor.rightArity)

include hmade hleft hwidth

/-- A left row whose key has a null joins with nothing. -/
theorem nestedLoop_of_no_key (hkey : stage.descriptor.leftKey left = none) :
    nestedLoop stage.descriptor.condition left rows = [] := by
  apply nestedLoop_eq_nil
  intro right member haccepts
  have hmatch := keysMatch_of_accepts hmade hleft (hwidth right member) haccepts
  obtain ⟨_, _, hsome, -, -⟩ := keys_of_keysMatch hmade hleft (hwidth right member) hmatch
  rw [hkey] at hsome
  cases hsome

/-- The rows in a chain of the index, newest first, give the loop backwards. -/
theorem nestedLoop_of_candidates {key : List Value}
    (hkey : stage.descriptor.leftKey left = some key) :
    nestedLoop stage.descriptor.condition left
        (rows.filter fun row =>
          (row.key stage.descriptor.rightKeys).map hashKey == some (hashKey key)).reverse =
      (nestedLoop stage.descriptor.condition left rows).reverse := by
  rw [nestedLoop_reverse, nestedLoop_filter]
  intro right member haccepts
  have hmatch := keysMatch_of_accepts hmade hleft (hwidth right member) haccepts
  obtain ⟨leftKey, rightKey, hleftKey, hrightKey, hhash⟩ :=
    keys_of_keysMatch hmade hleft (hwidth right member) hmatch
  rw [hkey] at hleftKey
  obtain rfl := Option.some.inj hleftKey
  rw [JoinDescriptor.rightKey] at hrightKey
  simp [hrightKey, hhash]

omit [KeyHasher] in
/-- The rows that a lookup of the covering key finds give the loop, in the store's order. -/
theorem nestedLoop_of_lookup {columns : List Nat} {listed : List Row}
    (hcovering : coveringKey stage.descriptor columns = some stage.lookupColumns)
    (hperm : listed.Perm rows) :
    (nestedLoop stage.descriptor.condition left
        (listed.filter (RightRelation.rowMatches columns
          (stage.lookupColumns.map fun column => left.getD column .null)))).Perm
      (nestedLoop stage.descriptor.condition left rows) := by
  rw [nestedLoop_filter]
  · exact nestedLoop_perm hperm
  · intro right member haccepts
    apply coveringKey_covers hcovering
    exact keysMatch_of_accepts hmade hleft (hwidth right (hperm.mem_iff.mp member)) haccepts

omit [KeyHasher] in
/-- Joining by key with some of the right rows has the loop's outcome, if their order is as it
should be. -/
theorem loopOutcome_of_part {part : List Row} (hsub : ∀ right ∈ part, right ∈ rows)
    (hordered : stage.Ordered (nestedLoop stage.descriptor.condition left part)
      (nestedLoop stage.descriptor.condition left rows)) :
    stage.LoopOutcome rows left (part.flatMapM (stage.testedEqual left)) := by
  refine loopOutcome_of_follows (fun right member => ?_) hsub hordered
  exact testedEqual_follows hmade hleft (hwidth right (hsub right member))

omit [KeyHasher] in
theorem loopOutcome_lookup (hfinds : stage.right.Finds rows found)
    (haccess : stage.access = .lookup) :
    stage.LoopOutcome rows left
      (found (stage.lookupColumns.map fun column => left.getD column .null) >>=
        List.flatMapM (stage.testedEqual left)) := by
  obtain ⟨source, hright, hmode, hcovering⟩ := hmade.lookup_source haccess
  obtain ⟨listed, hperm, hfind⟩ := hfinds source hright
  have hlength : (stage.lookupColumns.map fun column => left.getD column .null).length =
      source.keyColumns.length := by
    rw [List.length_map, coveringKey_length hcovering]
  rw [hfind _ hlength]
  apply loopOutcome_of_part hmade hleft hwidth
  · intro right member
    exact hperm.mem_iff.mp (List.mem_filter.mp member).1
  · exact ordered_of_perm hmode haccess
      (nestedLoop_of_lookup hmade hleft hwidth hcovering hperm)

theorem loopOutcome_candidates (hmode : stage.mode = .hashProbe)
    (haccess : stage.access = .materialized)
    (harities : ∀ row ∈ rows, row.length = stage.right.arity) {key : List Value}
    (hkey : stage.descriptor.leftKey left = some key) :
    stage.LoopOutcome rows left
      (((stage.sideOf rows).map fun side =>
          (side.candidates (hashKey key)).map side.arena.row) >>=
        List.flatMapM (stage.testedEqual left)) := by
  by_cases hlimit : rows.length ≤ BuildSide.rowLimit stage.config
  · obtain ⟨side, hside, hholds⟩ := sideOf_holds harities hlimit
    have hcolumns : stage.indexColumns = some stage.descriptor.rightKeys := by
      rw [indexColumns, hmode]
    rw [hcolumns] at hholds
    have hcount := Nat.le_trans hlimit (BuildSide.rowLimit_le _)
    rw [hside]
    change stage.LoopOutcome rows left (List.flatMapM _ (List.map _ _))
    rw [hholds.candidates hcount]
    apply loopOutcome_of_part hmade hleft hwidth
    · intro right member
      exact (List.mem_filter.mp (List.mem_reverse.mp member)).1
    · rw [nestedLoop_of_candidates hmade hleft hwidth hkey]
      exact ordered_reversed hmode haccess
  · have hover : BuildSide.rowLimit stage.config < rows.length := by omega
    rw [sideOf_error hover]
    exact Or.inr ⟨⟨_, rfl⟩, Or.inr ⟨haccess, hover⟩⟩

end

theorem joinKeyed_loopOutcome (hmade : stage.Made) (hsteady : stage.right.Steady rows found)
    (hfinds : stage.right.Finds rows found) (hleft : left.length = stage.descriptor.leftArity)
    (hmode : stage.mode = .hashProbe) :
    stage.LoopOutcome rows left (stage.joinKeyed rows found left) := by
  have hwidth : ∀ right ∈ rows, right.length = stage.descriptor.rightArity := by
    intro right member
    rw [hsteady.arities right member, hmade.arity]
  unfold joinKeyed
  cases hkey : stage.descriptor.leftKey left with
  | none =>
      refine Or.inl ⟨[], rfl, ?_⟩
      rw [nestedLoop_of_no_key hmade hleft hwidth hkey]
      exact ⟨fun _ _ => rfl, fun _ => rfl, .rfl⟩
  | some key =>
      simp only
      cases haccess : stage.access with
      | rescan =>
          rw [reached_rescan haccess]
          apply loopOutcome_of_part hmade hleft hwidth
          · exact fun right member => member
          · exact ordered_same (Or.inr haccess)
      | lookup =>
          obtain ⟨source, hright, -, -⟩ := hmade.lookup_source haccess
          rw [reached_lookup haccess hright]
          exact loopOutcome_lookup hmade hleft hwidth hfinds haccess
      | materialized =>
          rw [reached_side haccess]
          exact loopOutcome_candidates hmade hleft hwidth hmode haccess hsteady.arities hkey

/-- Whatever the mode and the access, joining a left row has the loop's outcome. -/
theorem joinRow_loopOutcome (hmade : stage.Made) (hsteady : stage.right.Steady rows found)
    (hfinds : stage.right.Finds rows found) (hleft : left.length = stage.descriptor.leftArity) :
    stage.LoopOutcome rows left (stage.joinRow rows found left) := by
  unfold joinRow
  cases hmode : stage.mode with
  | hashProbe => exact joinKeyed_loopOutcome hmade hsteady hfinds hleft hmode
  | fullScan => exact joinAll_loopOutcome hmade hsteady hmode

end

/-- Probing computes the plain nested loop. Over a split condition and a relation in memory, at
any site the stage can come to and while the query is live, a probe that succeeds appends the
rows of the loop: in its order for a full scan and for a rescan, backwards for a materialized
hash probe, and in some order for lookups. It does succeed if the condition fails on no right
row and a side to be materialized is within its limit. -/
theorem probeRow_computes_nestedLoop [KeyHasher] {condition : Expr} {leftArity rightArity : Nat}
    {d : JoinDescriptor} {right : RightRelation} {rows : List Row} {config : JoinConfig}
    {relation : Nat} {stage : JoinStage} {left : Row} {s : ProbeState}
    (hclassify : JoinDescriptor.classify condition leftArity rightArity = .ok d)
    (hright : right.InMemory rows)
    (hcreate : create d right config relation = .ok stage)
    (hleft : left.length = leftArity) (hlive : s.session.Live) (hsite : stage.Reached s.site) :
    (∀ t, stage.probeRow left s = (.ok (), t) →
      ∃ emitted, t.emitted.toList = s.emitted.toList ++ emitted ∧
        (stage.mode = .fullScan ∨ stage.access = .rescan →
          emitted = nestedLoop condition left rows) ∧
        (stage.mode = .hashProbe → stage.access = .materialized →
          emitted = (nestedLoop condition left rows).reverse) ∧
        (stage.access = .lookup → emitted.Perm (nestedLoop condition left rows))) ∧
    ((∀ row ∈ rows, ∃ t, condition.holds (left ++ row) = .ok t) →
      (stage.access = .materialized → rows.length ≤ BuildSide.rowLimit config) →
      ∃ t, stage.probeRow left s = (.ok (), t)) := by
  obtain ⟨hmade, rfl, rfl, -, rfl, rfl⟩ := made_of_create hclassify hcreate
  obtain ⟨found, hsteady, hfinds⟩ := hright.steady
  have hslot := hsite.slotHolds hsteady.agrees
  obtain ⟨t, hrun, -, hemitted⟩ := probeRow_emits hsteady hmade.arity hleft s ⟨hlive, hslot⟩
  rcases joinRow_loopOutcome hmade hsteady hfinds hleft with
    ⟨emitted, hok, hordered⟩ | ⟨⟨e, herror⟩, hreason⟩
  · rw [hok] at hrun
    refine ⟨fun u hu => ?_, fun _ _ => ⟨t, hrun⟩⟩
    obtain rfl : t = u := by rw [hrun] at hu; exact (Prod.mk.inj hu).2
    exact ⟨emitted, hemitted emitted hok, hordered.same, hordered.reversed,
      fun _ => hordered.perm⟩
  · rw [herror] at hrun
    refine ⟨fun u hu => ?_, fun hholds hlimit => ?_⟩
    · rw [hrun] at hu
      cases hu
    · rcases hreason with ⟨row, member, e, hfails⟩ | ⟨haccess, hover⟩
      · obtain ⟨t, ht⟩ := hholds row member
        rw [hfails] at ht
        cases ht
      · have := hlimit haccess
        omega

/-- Keys of different number types join, a null key and an unknown residual do not, and the rows
come newest first. -/
theorem probeRow_joins_mixed_numbers :
    let condition : Expr := .and [.columnsEqual 2 0, .compare .lt (.column 1) (.column 3)]
    let rows : List Row := [[.int64 1, .int32 7], [.null, .int32 9],
      [.float64 (Double.ofInt 1), .int32 8], [.int64 1, .null]]
    let left : Row := [.int32 1, .int32 5]
    ∃ d r stage t, JoinDescriptor.classify condition 2 2 = .ok d ∧
      MemoryRelation.ofRows "r" 2 rows false = .ok r ∧
      create d (.bounded r.source) {} 0 = .ok stage ∧
      stage.probeRow left ⟨{}, {}, #[]⟩ = (.ok (), t) ∧
      t.emitted.toList =
        [left ++ [.float64 (Double.ofInt 1), .int32 8], left ++ [.int64 1, .int32 7]] := by
  intro condition rows left
  let d : JoinDescriptor :=
    ⟨[0], [0], some (.compare .lt (.column 1) (.column 3)), condition, 2, 2⟩
  have hclassify : JoinDescriptor.classify condition 2 2 = .ok d := rfl
  have hrelation : MemoryRelation.ofRows "r" 2 rows false = .ok ⟨"r", 2, rows, false⟩ := rfl
  have hcreate : create d (.bounded (MemoryRelation.source ⟨"r", 2, rows, false⟩)) {} 0 =
      .ok _ := rfl
  have hlive : (ProbeState.mk {} {} #[]).session.Live := ⟨rfl, fun n h => nomatch h⟩
  have hleft : left.length = 2 := rfl
  obtain ⟨hrows, htotal⟩ := probeRow_computes_nestedLoop hclassify (.bounded hrelation) hcreate
    hleft hlive .fresh
  have hholds : ∀ row ∈ rows, ∃ t, condition.holds (left ++ row) = .ok t := by
    intro row member
    simp only [rows, List.mem_cons, List.not_mem_nil, or_false] at member
    rcases member with rfl | rfl | rfl | rfl
    · exact ⟨.true, by decide +kernel⟩
    · exact ⟨.unknown, by decide +kernel⟩
    · exact ⟨.true, by decide +kernel⟩
    · exact ⟨.unknown, by decide +kernel⟩
  obtain ⟨t, hrun⟩ := htotal hholds fun _ => by decide +kernel
  obtain ⟨emitted, hemitted, -, hreversed, -⟩ := hrows t hrun
  refine ⟨_, _, _, t, hclassify, hrelation, hcreate, hrun, ?_⟩
  rw [hemitted, hreversed rfl rfl]
  decide +kernel
end JoinStage

end JoinEngine
