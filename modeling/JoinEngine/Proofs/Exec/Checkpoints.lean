import Mathlib.Order.Bounds.Basic
import JoinEngine.Proofs.Exec.Lookup
import JoinEngine.Proofs.Exec.NestedLoop

/-!
A full scan that is cancelled on its way. The token is looked at before every right row that ends
an interval, and nowhere else within a left row. So a scan goes on behind the row at whose test the
token became cancelled, and it stops at the first checkpoint after it; where there is none left the
scan ends as if nothing had happened. The rows tested until then are counted by the evaluations of
the query, and the rows emitted are those of the nested loop over them.
-/

namespace JoinEngine

namespace Session

/-- The token becomes cancelled at the evaluation of that number, counted from one, and was not
cancelled before. -/
structure Due (s : Session) (due : Nat) : Prop where
  cancelAt : s.cancelAt = some due
  cancelled : s.cancelled = decide (due ≤ s.evaluations)

variable {s t : Session} {due : Nat}

theorem Due.countEvaluation (h : s.Due due) : s.countEvaluation.Due due := by
  refine ⟨h.cancelAt, ?_⟩
  simp only [Session.countEvaluation, h.cancelAt, h.cancelled]
  by_cases hnext : due = s.evaluations + 1
  · simp [hnext]
  · have hsame : due ≤ s.evaluations + 1 ↔ due ≤ s.evaluations := by omega
    simp [hnext, hsame]

theorem Due.trade (h : s.Due due) (hsame : s.SameToken t) : t.Due due where
  cancelAt := hsame.cancelAt ▸ h.cancelAt
  cancelled := by rw [← hsame.cancelled, ← hsame.evaluations, h.cancelled]

theorem Due.check_of_lt (h : s.Due due) (hlt : s.evaluations < due) : s.check = .ok () := by
  apply check_eq_ok
  rw [h.cancelled, decide_eq_false (Nat.not_le_of_lt hlt)]

theorem Due.check_of_le (h : s.Due due) (hle : due ≤ s.evaluations) :
    s.check = .error .cancelled := by
  apply check_eq_error
  rw [h.cancelled, decide_eq_true hle]

end Session

theorem RightRelation.Steady.answers {right : RightRelation} {rows : List Row}
    {found : List Value → Except JoinError (List Row)} (h : right.Steady rows found) :
    right.Answers (.ok rows) found fun _ => False where
  scan n := Or.inl (h.scan n)
  lookup source hsource n key := Or.inl (h.lookup source hsource n key)

namespace JoinStage

open Probe Run

/-! ### The loop over the right rows -/

def scanAt (stage : JoinStage) (left : Row) (entry : Row × Nat) : Probe Unit := do
  checkAt entry.2
  stage.emitIf (some stage.descriptor.condition) left entry.1

section

variable {stage : JoinStage} {left : Row} {s : ProbeState} {due : Nat}

/-- A test that succeeds is one evaluation, and emits what the nested loop has for the row. -/
theorem emitIf_apply {condition : Expr} {right : Row} {truth : Ternary}
    (hholds : condition.holds (left ++ right) = .ok truth) (s : ProbeState) :
    ∃ t, stage.emitIf (some condition) left right s = (.ok (), t) ∧
      t.session = s.session.countEvaluation ∧
      t.emitted.toList = s.emitted.toList ++ nestedLoop condition left [right] := by
  have hloop : nestedLoop condition left [right] =
      if truth.isTrue then [left ++ right] else [] := by
    simp only [nestedLoop, List.map_singleton, List.filter_singleton, Expr.accepts, hholds]
    cases truth.isTrue <;> rfl
  let u : ProbeState := { s with session := s.session.countEvaluation }
  have htruth : Probe.holds condition (left ++ right) s = (.ok truth, u) := by
    have hstep : Probe.holds condition (left ++ right) s =
        (condition.holds (left ++ right), u) := rfl
    rw [hstep, hholds]
  simp only [emitIf]
  rw [bind_apply, htruth, hloop]
  simp only
  cases truth.isTrue with
  | true => exact ⟨_, rfl, rfl, Array.toList_push⟩
  | false =>
      obtain ⟨counters, hcount⟩ := stage.count_apply Counters.residualRejection u
      exact ⟨_, hcount, rfl, (List.append_nil _).symm⟩

/-- A row is tested unless it is at a checkpoint and the token has become cancelled. -/
theorem scanAt_of_passes {right : Row} {position : Nat} {truth : Ternary}
    (hdue : s.session.Due due)
    (hpass : position % checkInterval = checkInterval - 1 → s.session.evaluations < due)
    (hholds : stage.descriptor.condition.holds (left ++ right) = .ok truth) :
    ∃ t, stage.scanAt left (right, position) s = (.ok (), t) ∧
      t.session = s.session.countEvaluation ∧
      t.emitted.toList =
        s.emitted.toList ++ nestedLoop stage.descriptor.condition left [right] := by
  have hcheck : checkAt position s = (.ok (), s) := by
    unfold checkAt
    split
    next hcheckpoint =>
      rw [check_apply, hdue.check_of_lt (hpass hcheckpoint)]
    next => rfl
  unfold scanAt
  rw [bind_apply, hcheck]
  exact emitIf_apply hholds s

theorem scanAt_of_stops {right : Row} {position : Nat} (hdue : s.session.Due due)
    (hcheckpoint : position % checkInterval = checkInterval - 1)
    (hstop : due ≤ s.session.evaluations) :
    stage.scanAt left (right, position) s = (.error .cancelled, s) := by
  have hcheck : checkAt position s = (.error .cancelled, s) := by
    unfold checkAt
    rw [if_pos hcheckpoint, check_apply, hdue.check_of_le hstop]
  unfold scanAt
  rw [bind_apply, hcheck]

/-- Rows are tested one after the other as long as no checkpoint among them finds the token
cancelled. -/
theorem scan_of_passes {rows : List Row} {first : Nat} (hdue : s.session.Due due)
    (hpass : ∀ i < rows.length, (first + i) % checkInterval = checkInterval - 1 →
      s.session.evaluations + i < due)
    (hholds : ∀ right ∈ rows, ∃ truth,
      stage.descriptor.condition.holds (left ++ right) = .ok truth) :
    ∃ t, (rows.zipIdx first).forM (stage.scanAt left) s = (.ok (), t) ∧
      t.session.Due due ∧ t.session.evaluations = s.session.evaluations + rows.length ∧
      t.emitted.toList =
        s.emitted.toList ++ nestedLoop stage.descriptor.condition left rows := by
  induction rows generalizing first s with
  | nil => exact ⟨s, rfl, hdue, rfl, (List.append_nil _).symm⟩
  | cons right rest ih =>
      obtain ⟨truth, htruth⟩ := hholds right List.mem_cons_self
      have hfirst : first % checkInterval = checkInterval - 1 → s.session.evaluations < due :=
        hpass 0 (Nat.succ_pos _)
      obtain ⟨t, hright, hsession, hemitted⟩ := scanAt_of_passes hdue hfirst htruth
      have hcount : t.session.evaluations = s.session.evaluations + 1 := by
        rw [hsession]
        rfl
      have hrest : ∀ i < rest.length, (first + 1 + i) % checkInterval = checkInterval - 1 →
          t.session.evaluations + i < due := by
        intro i hi hcheckpoint
        have hlater := hpass (i + 1) (Nat.succ_lt_succ hi)
        rw [hcount, Nat.add_assoc, Nat.add_comm 1 i]
        exact hlater (by rwa [Nat.add_comm i 1, ← Nat.add_assoc])
      obtain ⟨u, hscan, hlast, hcounts, hrows⟩ := ih (hsession ▸ hdue.countEvaluation) hrest
        fun other member => hholds other (List.mem_cons_of_mem right member)
      refine ⟨u, ?_, hlast, ?_, ?_⟩
      · change (stage.scanAt left (right, first) >>= fun _ =>
          (rest.zipIdx (first + 1)).forM (stage.scanAt left)) s = _
        rw [bind_apply, hright]
        exact hscan
      · rw [hcounts, hcount, List.length_cons]
        omega
      · rw [hrows, hemitted, List.append_assoc, ← nestedLoop_cons]

/-- A scan whose token becomes cancelled at the test of row `j` stops at the first checkpoint `c`
behind it, with the rows before `c` tested; if there is no such row, all rows are tested. -/
theorem scan_until_checkpoint {rows : List Row} {j c : Nat}
    (hdue : s.session.Due (s.session.evaluations + (j + 1)))
    (hc : IsLeast {i | j < i ∧ i % checkInterval = checkInterval - 1} c)
    (hholds : ∀ right ∈ rows.take c, ∃ truth,
      stage.descriptor.condition.holds (left ++ right) = .ok truth) :
    ∃ t, rows.zipIdx.forM (stage.scanAt left) s =
        (if c < rows.length then .error .cancelled else .ok (), t) ∧
      t.session.evaluations = s.session.evaluations + min c rows.length ∧
      t.emitted.toList =
        s.emitted.toList ++ nestedLoop stage.descriptor.condition left (rows.take c) := by
  obtain ⟨⟨hbehind, hcheckpoint⟩, hleast⟩ := hc
  have hpass : ∀ i < (rows.take c).length, (0 + i) % checkInterval = checkInterval - 1 →
      s.session.evaluations + i < s.session.evaluations + (j + 1) := by
    intro i hi hi'
    rw [Nat.zero_add] at hi'
    have hbefore : i < c := Nat.lt_of_lt_of_le hi (List.length_take_le c rows)
    have hle : ¬ j < i := fun hlt => Nat.not_le_of_lt hbefore (hleast ⟨hlt, hi'⟩)
    omega
  obtain ⟨t, hscan, hlast, hcount, hrows⟩ := scan_of_passes hdue hpass hholds
  rw [List.length_take] at hcount
  refine ⟨t, ?_, hcount, hrows⟩
  by_cases hlt : c < rows.length
  · have hreached : s.session.evaluations + (j + 1) ≤ t.session.evaluations := by
      rw [hcount, Nat.min_eq_left (Nat.le_of_lt hlt)]
      omega
    have hsplit : rows.zipIdx = (rows.take c).zipIdx ++
        (rows[c], c) :: (rows.drop (c + 1)).zipIdx (c + 1) := by
      have hwhole : rows = rows.take c ++ rows[c] :: rows.drop (c + 1) := by
        rw [← List.drop_eq_getElem_cons hlt, List.take_append_drop]
      conv_lhs => rw [hwhole]
      rw [List.zipIdx_append, List.length_take, Nat.min_eq_left (Nat.le_of_lt hlt), Nat.zero_add,
        List.zipIdx_cons]
    have hparts : rows.zipIdx.forM (stage.scanAt left) =
        (rows.take c).zipIdx.forM (stage.scanAt left) >>= fun _ =>
          stage.scanAt left (rows[c], c) >>= fun _ =>
            ((rows.drop (c + 1)).zipIdx (c + 1)).forM (stage.scanAt left) := by
      rw [hsplit]
      exact List.forM_append
    rw [if_pos hlt, hparts, bind_apply, hscan]
    simp only
    rw [bind_apply, scanAt_of_stops hlast hcheckpoint hreached]
  · rw [if_neg hlt]
    rwa [List.take_of_length_le (Nat.le_of_not_lt hlt)] at hscan

end

/-! ### The probe -/

section

variable [KeyHasher] {stage : JoinStage} {rows : List Row}
  {found : List Value → Except JoinError (List Row)} {fault : JoinError → Prop}

theorem asks_forM {α : Type} {scanned : Except JoinError (List Row)} {items : List α}
    {check : α → Except JoinError Unit} (h : ∀ a ∈ items, check a = .ok ()) :
    stage.Asks scanned fault (items.forM fun a => liftM (check a)) (.ok ()) := by
  induction items with
  | nil => exact asks_lift (.ok ())
  | cons a rest ih =>
      have hfirst : stage.Asks scanned fault (liftM (check a)) (.ok ()) := by
        rw [h a List.mem_cons_self]
        exact asks_lift (.ok ())
      exact hfirst.followed (ih fun b member => h b (List.mem_cons_of_mem a member))

/-- Right rows of the descriptor's arity, few enough if they are to be materialized, are the rows
of the scan, and reading them is no evaluation. -/
theorem asks_allRight (hanswers : stage.right.Answers (.ok rows) found fault)
    (harities : ∀ right ∈ rows, right.length = stage.right.arity)
    (harity : stage.right.arity = stage.descriptor.rightArity)
    (hlimit : stage.access ≠ .rescan → rows.length ≤ BuildSide.rowLimit stage.config) :
    stage.Asks (.ok rows) fault stage.allRight (.ok rows) := by
  have hmade (htaken : stage.access ≠ .rescan) : stage.Asks (.ok rows) fault
      (do return (← stage.side).arena.rows) (.ok rows) := by
    obtain ⟨side, hside, hholds⟩ := sideOf_holds harities (hlimit htaken)
    have hread := (asks_side hanswers).reading fun side => side.arena.rows
    have hrows : (Except.ok rows >>= stage.sideOf).map (fun side => side.arena.rows) =
        .ok rows := by
      change (stage.sideOf rows).map _ = _
      rw [hside]
      exact congrArg Except.ok hholds.arena.rows
    rwa [hrows] at hread
  unfold allRight
  cases haccess : stage.access with
  | materialized | lookup => exact hmade (by rw [haccess]; nofun)
  | rescan =>
      apply (asks_scanRight hanswers).followed
      refine Asks.followed (asks_forM fun right member => ?_) (asks_lift (.ok rows))
      unfold expectRight Row.expectArity
      rw [if_pos ((harities right member).trans harity)]
      rfl

theorem probeAll_eq_scan (stage : JoinStage) (left : Row) :
    stage.probeAll left = (do
      let found ← stage.allRight
      found.zipIdx.forM (stage.scanAt left)) :=
  stage.probeAll_eq left

/-- Once a left row is checked and counted, scanning all right rows decides how its probe ends, what
it emits and how many tests it takes. -/
theorem probeRow_of_scan {left : Row} {s : ProbeState} (hmode : stage.mode = .fullScan)
    (hanswers : stage.right.Answers (.ok rows) found fun _ => False)
    (hslot : stage.SlotHolds rows s.site)
    (harities : ∀ right ∈ rows, right.length = stage.right.arity)
    (harity : stage.right.arity = stage.descriptor.rightArity)
    (hlimit : stage.access ≠ .rescan → rows.length ≤ BuildSide.rowLimit stage.config)
    (hcheck : s.session.check = .ok ()) (hleft : left.length = stage.descriptor.leftArity) :
    ∃ start : ProbeState, s.session.SameToken start.session ∧ start.emitted = s.emitted ∧
      ∀ outcome u, rows.zipIdx.forM (stage.scanAt left) start = (outcome, u) →
        ∃ t, stage.probeRow left s = (outcome, t) ∧ t.session = u.session ∧
          t.emitted = u.emitted := by
  obtain ⟨counters, hprobe⟩ := probeRow_of_checked hcheck hleft
  obtain ⟨⟨htoken, hemitted, -, -⟩, hrows⟩ :=
    asks_allRight hanswers harities harity hlimit { s with site := { s.site with counters } } hslot
  rw [joinLeft, hmode] at hprobe
  simp only at hprobe htoken hemitted
  rw [probeAll_eq_scan, bind_apply, bind_apply] at hprobe
  cases hread : stage.allRight { s with site := { s.site with counters } } with
  | mk result start =>
      rw [hread] at hprobe htoken hemitted hrows
      rcases hrows with rfl | ⟨_, hnever, -⟩
      · refine ⟨start, htoken, hemitted.symm, fun outcome u hscan => ?_⟩
        simp only [hscan] at hprobe
        cases outcome with
        | error e => exact ⟨u, hprobe, rfl, rfl⟩
        | ok _ =>
            obtain ⟨last, hcount⟩ := stage.countEmitted_apply s.emitted.size u
            exact ⟨_, hprobe.trans hcount, rfl, rfl⟩
      · exact hnever.elim

/-- A full scan notices a cancellation at exactly the next checkpoint. Let the token become
cancelled at the test of right row `j`, and let `c` be the first position behind `j` that ends an
interval of 1024 rows. If there is a right row `c`, the probe fails as cancelled with the rows
before it tested; if there is none, all rows are tested and the probe succeeds. Either way the rows
tested are joined as by the nested loop, and no more than 1023 of them lie behind row `j`. Nothing
is asked of the condition on rows that are not tested. -/
theorem probeRow_stops_at_checkpoint {d : JoinDescriptor} {right : RightRelation}
    {config : JoinConfig} {relation : Nat} {left : Row} {s : ProbeState} {j c : Nat}
    (hcreate : create d right config relation = .ok stage) (hmode : stage.mode = .fullScan)
    (hright : right.Steady rows found)
    (hlimit : stage.access = .materialized → rows.length ≤ BuildSide.rowLimit config)
    (hleft : left.length = d.leftArity) (hsite : stage.Reached s.site)
    (hlive : s.session.cancelled = false)
    (hcancelAt : s.session.cancelAt = some (s.session.evaluations + (j + 1)))
    (hc : IsLeast {i | j < i ∧ i % 1024 = 1023} c)
    (hholds : ∀ row ∈ rows.take c, ∃ truth, d.condition.holds (left ++ row) = .ok truth) :
    ∃ t, stage.probeRow left s = (if c < rows.length then .error .cancelled else .ok (), t) ∧
      t.session.evaluations = s.session.evaluations + min c rows.length ∧
      t.emitted.toList = s.emitted.toList ++ nestedLoop d.condition left (rows.take c) ∧
      t.session.evaluations ≤ s.session.evaluations + (j + 1) + 1023 := by
  obtain ⟨-, harity, hstage⟩ := create_eq_ok_iff.mp hcreate
  obtain ⟨rfl, rfl, rfl⟩ : stage.descriptor = d ∧ stage.right = right ∧ stage.config = config := by
    rw [hstage]
    exact ⟨rfl, rfl, rfl⟩
  have hchosen : stage.access = (accessTo stage.descriptor stage.mode stage.right).1 := by
    rw [hstage]
  -- a full scan never looks rows up, so what it does not scan again it has materialized
  have htaken : stage.access ≠ .rescan → rows.length ≤ BuildSide.rowLimit stage.config := by
    intro haccess
    apply hlimit
    rw [hmode] at hchosen
    cases hkind : stage.right with
    | bounded source | partitioned source => rw [hchosen, hkind]; rfl
    | rescan source => exact absurd (by rw [hchosen, hkind]; rfl) haccess
  have hcheck : s.session.check = .ok () := Session.check_eq_ok hlive
  obtain ⟨start, htoken, hemitted, hends⟩ :=
    probeRow_of_scan hmode hright.answers (hsite.slotHolds hright.agrees) hright.arities harity
      htaken hcheck hleft
  have hdue : start.session.Due (start.session.evaluations + (j + 1)) := by
    rw [← htoken.evaluations]
    refine Session.Due.trade ⟨hcancelAt, ?_⟩ htoken
    rw [hlive]
    exact (decide_eq_false (by omega)).symm
  obtain ⟨u, hscan, hcount, hrows⟩ := scan_until_checkpoint hdue hc hholds
  obtain ⟨t, hprobe, hsession, hsame⟩ := hends _ u hscan
  rw [← htoken.evaluations] at hcount
  rw [hemitted] at hrows
  refine ⟨t, hprobe, hsession ▸ hcount, hsame ▸ hrows, ?_⟩
  have hnext : c ≤ (j + 1) / 1024 * 1024 + 1023 := hc.2 ⟨by omega, by omega⟩
  rw [hsession, hcount]
  omega

end

/-- The token becomes cancelled at the test of row 1023, just behind a checkpoint, so the scan of
2100 rows goes on for 1023 rows more. -/
theorem probeRow_stops_at_second_checkpoint :
    let rows : List Row := List.replicate 2100 [.int32 2]
    let d : JoinDescriptor :=
      ⟨[], [], some (.compare .lt (.column 0) (.column 1)), .compare .lt (.column 0) (.column 1),
        1, 1⟩
    let right : RightRelation := .bounded ⟨"r", 1, false, fun _ => .ok rows⟩
    let s : ProbeState := ⟨{ cancelAt := some 1024 }, {}, #[]⟩
    ∃ stage t, create d right {} 0 = .ok stage ∧ stage.mode = .fullScan ∧
      stage.probeRow [.int32 1] s = (.error .cancelled, t) ∧ t.session.evaluations = 2047 ∧
      t.emitted.toList =
        nestedLoop d.condition [.int32 1] (List.replicate 2047 [.int32 2]) := by
  intro rows d right s
  have hlength : rows.length = 2100 := List.length_replicate
  have hright : right.Steady rows fun _ => .ok [] := by
    refine ⟨fun _ => rfl, fun row member => ?_, ?_, ?_⟩
    · rw [List.eq_of_mem_replicate member]
      rfl
    · exact fun source hsource => nomatch hsource
    · intro key answer hanswer row member
      obtain rfl := Except.ok.inj hanswer
      cases member
  have hlimit : rows.length ≤ BuildSide.rowLimit {} := by
    rw [hlength]
    decide
  have hc : IsLeast {i | 1023 < i ∧ i % 1024 = 1023} 2047 := by
    refine ⟨⟨by omega, by omega⟩, fun i ⟨hbehind, hcheckpoint⟩ => ?_⟩
    omega
  have hholds : ∀ row ∈ rows.take 2047, ∃ truth,
      d.condition.holds ([.int32 1] ++ row) = .ok truth := by
    intro row member
    rw [List.eq_of_mem_replicate (List.mem_of_mem_take member)]
    exact ⟨.true, by decide⟩
  have hcreate : create d right {} 0 = .ok ⟨d, right, {}, .fullScan, .materialized, [], 0⟩ := rfl
  have hleft : [Value.int32 1].length = d.leftArity := rfl
  obtain ⟨t, hprobe, hcount, hemitted, -⟩ :=
    probeRow_stops_at_checkpoint (s := s) hcreate rfl hright (fun _ => hlimit) hleft .fresh rfl rfl
      hc hholds
  rw [if_pos (by rw [hlength]; decide)] at hprobe
  rw [hlength] at hcount
  rw [List.take_replicate] at hemitted
  exact ⟨_, t, hcreate, rfl, hprobe, hcount, hemitted⟩

end JoinStage

end JoinEngine
