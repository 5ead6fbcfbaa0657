import JoinEngine.Proofs.Exec.Cache
import JoinEngine.Proofs.Exec.ChainMeaning
import JoinEngine.Proofs.Expr.Columns

/-!
A condition after ON and a condition after WHERE. A join on two conditions, and a join on the first
whose rows are filtered by the second, take quite different ways: they probe by other keys, test
other conditions on other pairs of rows and in another order. Where both succeed they give the
nested loop over the conjunction. Nothing is assumed about the query's token, and the relation may
be out of reach now and then, as only runs that succeed are compared: what such a run gives, it
would give on a live query over a relation always within reach.
-/

namespace JoinEngine

namespace RightRelation

/-- Where the relation answers at all, it gives its rows to a scan, and to a lookup those of its
rows that have the key. -/
structure Honest (right : RightRelation) (rows : List Row)
    (found : List Value → Except JoinError (List Row)) : Prop where
  answers : right.Answers (.ok rows) found fun _ => True
  arities : ∀ row ∈ rows, row.length = right.arity
  found_arities : ∀ key answer, found key = .ok answer →
    ∀ row ∈ answer, row.length = right.arity
  finds : right.Finds rows found

variable {right : RightRelation} {rows : List Row}
  {found : List Value → Except JoinError (List Row)}

theorem Steady.honest (h : right.Steady rows found) (hfinds : right.Finds rows found) :
    right.Honest rows found where
  answers := ⟨fun n => Or.inl (h.scan n), fun source hsource n key =>
    Or.inl (h.lookup source hsource n key)⟩
  arities := h.arities
  found_arities := h.found_arities
  finds := hfinds

/-- With the same answers, but always within reach, the relation is steady. -/
theorem Honest.steady (h : right.Honest rows found) :
    (right.answering rows found).Steady rows found ∧
      (right.answering rows found).Finds rows found := by
  obtain ⟨-, harities, hfound, hfinds⟩ := h
  cases right with
  | bounded source | rescan source =>
      exact ⟨⟨fun _ => rfl, harities, fun _ hother => (nomatch hother), hfound⟩,
        fun _ hother => nomatch hother⟩
  | partitioned source =>
      refine ⟨⟨fun _ => rfl, harities, fun other hother n key => ?_, hfound⟩,
        fun other hother => ?_⟩
      · obtain rfl := RightRelation.partitioned.inj hother
        rfl
      · obtain rfl := RightRelation.partitioned.inj hother
        exact hfinds source rfl

end RightRelation

namespace Expr

theorem accepts_and (a b : Expr) (row : Row) :
    (Expr.and [a, b]).accepts row = (a.accepts row && b.accepts row) := by
  rw [Bool.eq_iff_iff, Bool.and_eq_true, accepts_iff, accepts_iff, accepts_iff, holds_and,
    allTrue_eq_true_iff]
  simp

end Expr

/-- Filtering the nested loop is looping over the conjunction. -/
theorem filter_nestedLoop (a b : Expr) (left : Row) (rights : List Row) :
    (nestedLoop a left rights).filter b.accepts = nestedLoop (.and [a, b]) left rights := by
  unfold nestedLoop
  rw [List.filter_filter]
  refine List.filter_congr fun row _ => ?_
  rw [Expr.accepts_and, Bool.and_comm]

/-- A filter without expressions gives the rows on which it is true, and it has a truth on all of
them. -/
theorem Projection.applyAll_filter_eq_ok {condition : Expr} {rows out : List Row} {s t : Session}
    (h : Projection.applyAll ⟨some condition, []⟩ rows s = (.ok out, t)) :
    out = rows.filter condition.accepts ∧
      ∀ row ∈ rows, ∃ truth, condition.holds row = .ok truth := by
  induction rows generalizing s t out with
  | nil =>
      obtain ⟨rfl, -⟩ := Run.pure_eq_ok h
      exact ⟨rfl, nofun⟩
  | cons row rest ih =>
      obtain ⟨made, u, happly, h⟩ := Run.bind_eq_ok h
      obtain ⟨others, v, hothers, h⟩ := Run.bind_eq_ok h
      obtain ⟨rfl, -⟩ := Run.pure_eq_ok h
      obtain ⟨rfl, hrest⟩ := ih hothers
      obtain ⟨passed, w, haccepts, happly⟩ := Run.bind_eq_ok happly
      have htest : Projection.accepts ⟨some condition, []⟩ row s =
          ((condition.holds row).map Ternary.isTrue, s.countEvaluation) := by
        simp only [Projection.accepts]
        cases condition.holds row <;> rfl
      rw [htest] at haccepts
      cases hholds : condition.holds row with
      | error e =>
          rw [hholds] at haccepts
          cases haccepts
      | ok truth =>
          rw [hholds] at haccepts
          obtain rfl := Except.ok.inj (Prod.mk.inj haccepts).1
          have hrow : condition.accepts row = truth.isTrue := by
            simp only [Expr.accepts, hholds]
          refine ⟨?_, List.forall_mem_cons.mpr ⟨⟨truth, hholds⟩, hrest⟩⟩
          cases htrue : truth.isTrue with
          | true =>
              rw [htrue] at happly hrow
              obtain ⟨projected, x, hproject, happly⟩ := Run.bind_eq_ok happly
              obtain ⟨hsame, -⟩ := Run.lift_eq_ok hproject
              obtain rfl := Except.ok.inj hsame
              obtain ⟨rfl, -⟩ := Run.pure_eq_ok happly
              rw [List.filter_cons_of_pos hrow]
              rfl
          | false =>
              rw [htrue] at happly hrow
              obtain ⟨rfl, -⟩ := Run.pure_eq_ok happly
              rw [List.filter_cons_of_neg (by simp [hrow])]
              rfl

namespace JoinStage

variable [KeyHasher]

/-- The stage was created to join a relation on a condition. -/
def JoinsOn (stage : JoinStage) (condition : Expr) (leftArity : Nat) (right : RightRelation)
    (config : JoinConfig) : Prop :=
  ∃ rightArity d relation, JoinDescriptor.classify condition leftArity rightArity = .ok d ∧
    create d right config relation = .ok stage

variable {stage fresh : JoinStage} {condition : Expr} {leftArity : Nat} {right : RightRelation}
  {config : JoinConfig} {rows : List Row} {found : List Value → Except JoinError (List Row)}

omit [KeyHasher] in
theorem JoinsOn.made (h : stage.JoinsOn condition leftArity right config) :
    stage.Made ∧ stage.descriptor.condition = condition ∧
      stage.descriptor.leftArity = leftArity ∧ stage.right = right ∧ stage.config = config := by
  obtain ⟨rightArity, d, relation, hclassify, hcreate⟩ := h
  obtain ⟨hmade, hcondition, hleft, -, hright, hconfig⟩ := made_of_create hclassify hcreate
  exact ⟨hmade, hcondition, hleft, hright, hconfig⟩

/-- The same stage can be created over the relation always within reach, and it mirrors the
first. -/
theorem JoinsOn.exists_fresh (h : stage.JoinsOn condition leftArity right config)
    (hhonest : right.Honest rows found) :
    ∃ fresh : JoinStage,
      fresh.JoinsOn condition leftArity (right.answering rows found) config ∧
      stage.Mirrors fresh (.ok rows) found fun _ => True := by
  obtain ⟨rightArity, d, relation, hclassify, hcreate⟩ := h
  obtain ⟨fresh, hfresh, hmirrors⟩ := exists_mirror hcreate hhonest.answers
  exact ⟨fresh, ⟨rightArity, d, relation, hclassify, hfresh⟩, hmirrors⟩

/-- Joining a left row gives the nested loop, if it gives anything. -/
theorem JoinsOn.perm (h : stage.JoinsOn condition leftArity right config)
    (hsteady : right.Steady rows found) (hfinds : right.Finds rows found) {left : Row}
    (hleft : left.length = leftArity) {joined : List Row}
    (hok : stage.joinRow rows found left = .ok joined) :
    joined.Perm (nestedLoop condition left rows) := by
  obtain ⟨hmade, rfl, rfl, rfl, -⟩ := h.made
  rcases joinRow_loopOutcome hmade hsteady hfinds hleft with
    ⟨emitted, hemitted, hordered⟩ | ⟨⟨e, herror⟩, -⟩
  · rw [hok] at hemitted
    obtain rfl := Except.ok.inj hemitted
    exact hordered.perm
  · rw [hok] at herror
    cases herror

/-- Collecting the rows of some left rows leads to a site that the stage can come to. -/
theorem reached_collect (lefts : List Row) {s : StageState} (h : stage.Reached s.site) :
    stage.Reached (Probe.collect (lefts.forM stage.probeRow) s).2.site := by
  have hall : Run.Ends (fun s : ProbeState => stage.Reached s.site) (fun _ => True)
      (lefts.forM stage.probeRow) fun _ => ∀ left ∈ lefts, True :=
    Run.ends_forM fun left _ s hs => ⟨.probed left s hs, fun _ _ => trivial, fun _ _ => trivial⟩
  have hcollect : Run.Ends (fun s : StageState => stage.Reached s.site) (fun _ => True)
      (Probe.collect (lefts.forM stage.probeRow)) fun _ => True :=
    hall.collect (fun _ hs => hs) fun _ hs => ⟨hs, trivial⟩
  exact (hcollect s h).1

/-- On a live query, over a relation always within reach, one left row is collected as it is
joined. -/
theorem JoinsOn.collect_left (h : stage.JoinsOn condition leftArity right config)
    (hsteady : right.Steady rows found) {left : Row} (hleft : left.length = leftArity)
    {s : StageState} (hlive : s.session.Live) (hslot : stage.SlotHolds rows s.site) :
    ∃ u, Probe.collect ([left].forM stage.probeRow) s = (stage.joinRow rows found left, u) ∧
      u.session.Live ∧ stage.SlotHolds rows u.site := by
  obtain ⟨hmade, -, rfl, rfl, -⟩ := h.made
  have hemits : Probe.Emits (stage.Ready rows) ([left].forM stage.probeRow)
      ([left].flatMapM (stage.joinRow rows found)) :=
    Probe.emits_forM fun row member => probeRow_emits hsteady hmade.arity
      (by rw [List.mem_singleton.mp member, hleft])
  have hone : [left].flatMapM (stage.joinRow rows found) = stage.joinRow rows found left := by
    rw [List.flatMapM_cons, List.flatMapM_nil]
    cases stage.joinRow rows found left with
    | error e => rfl
    | ok joined => exact congrArg Except.ok (List.append_nil joined)
  rw [hone] at hemits
  exact hemits.collect ⟨hlive, hslot⟩

/-- The rows that a run over one left row collects are those it would collect on a live query from
a relation always within reach. -/
theorem JoinsOn.joinRow_of_collect (h : stage.JoinsOn condition leftArity right config)
    (hhonest : right.Honest rows found)
    (hmirrors : stage.Mirrors fresh (.ok rows) found fun _ => True)
    (hfresh : fresh.JoinsOn condition leftArity (right.answering rows found) config)
    {left : Row} (hleft : left.length = leftArity) {s u : StageState}
    (hreached : stage.Reached s.site) {joined : List Row}
    (hrun : Probe.collect ([left].forM stage.probeRow) s = (.ok joined, u)) :
    fresh.joinRow rows found left = .ok joined := by
  have hslot : stage.SlotFrom (.ok rows) s.site := by
    obtain ⟨-, -, -, rfl, -⟩ := h.made
    exact hreached.slotHolds hhonest.answers.agrees
  let new : StageState := {}
  have hlive : new.session.Live := ⟨rfl, fun n hn => nomatch hn⟩
  have haligned : stage.Aligned fresh .freed (.ok rows) (s.session.calls.of stage.relation)
      s.probing new.probing :=
    ⟨Or.inr hlive, rfl, hslot, fun _ hside => (nomatch hside), Calls.upTo_refl _⟩
  have hrows : stage.Alongside fresh .freed (.ok rows) (fun _ => True)
      (s.session.calls.of stage.relation) ([left].forM stage.probeRow)
      ([left].forM fresh.probeRow) :=
    Run.matches_forM (probeRow_matches hmirrors) [left]
  have hcollected : (Probe.collect ([left].forM fresh.probeRow) new).1 = .ok joined := by
    rcases hrows.collect s new haligned with ⟨hsame, -⟩ | ⟨e, herror, -⟩
    · rw [← hsame, hrun]
    · rw [hrun] at herror
      cases herror
  obtain ⟨v, hcollect, -⟩ := hfresh.collect_left hhonest.steady.1 hleft (s := new) hlive
    fun _ hside => nomatch hside
  rw [hcollect] at hcollected
  exact hcollected

/-- A join on truth goes through all right rows, and has a side of them unless they are scanned
again for each left row. -/
theorem JoinsOn.limit_of_cross (h : stage.JoinsOn (.literal (.bool true)) leftArity right config)
    (hright : ∀ source, right ≠ .rescan source) {left : Row} {joined : List Row}
    (hok : stage.joinRow rows found left = .ok joined) :
    rows.length ≤ BuildSide.rowLimit config := by
  obtain ⟨-, -, -, -, hconfig⟩ := h.made
  obtain ⟨hmode, haccess⟩ : stage.mode = .fullScan ∧ stage.access = .materialized := by
    obtain ⟨rightArity, d, relation, hclassify, hcreate⟩ := h
    obtain rfl := JoinDescriptor.eq_of_classify hclassify
    obtain ⟨-, -, rfl⟩ := create_eq_ok_iff.mp hcreate
    cases right with
    | rescan source => exact absurd rfl (hright source)
    | bounded source | partitioned source => exact ⟨rfl, rfl⟩
  by_contra hwithin
  have hover : BuildSide.rowLimit stage.config < rows.length := by
    rw [hconfig]
    exact Nat.lt_of_not_le hwithin
  simp only [joinRow, hmode, joinAll, scanned, haccess, sideOf_error hover] at hok
  cases hok

omit [KeyHasher] in
theorem JoinsOn.ne_rescan (h : stage.JoinsOn condition leftArity right config)
    (haccess : stage.access = .materialized) (source : ScanSource) : right ≠ .rescan source := by
  rintro rfl
  obtain ⟨rightArity, d, relation, -, hcreate⟩ := h
  obtain ⟨-, -, rfl⟩ := create_eq_ok_iff.mp hcreate
  cases haccess

/-- A left row on which the condition has a truth with every right row is joined, if the side is
within its limit. -/
theorem JoinsOn.joinRow_of_total (h : stage.JoinsOn condition leftArity right config)
    (hsteady : right.Steady rows found) (hfinds : right.Finds rows found) {left : Row}
    (hleft : left.length = leftArity)
    (htotal : ∀ row ∈ rows, ∃ truth, condition.holds (left ++ row) = .ok truth)
    (hlimit : stage.access = .materialized → rows.length ≤ BuildSide.rowLimit config) :
    ∃ joined, stage.joinRow rows found left = .ok joined := by
  obtain ⟨hmade, rfl, rfl, rfl, rfl⟩ := h.made
  rcases joinRow_loopOutcome hmade hsteady hfinds hleft with
    ⟨emitted, hok, -⟩ | ⟨-, ⟨row, member, e, hfails⟩ | ⟨haccess, hover⟩⟩
  · exact ⟨emitted, hok⟩
  · obtain ⟨truth, htruth⟩ := htotal row member
    rw [htruth] at hfails
    cases hfails
  · exact absurd hover (Nat.not_lt_of_le (hlimit haccess))

end JoinStage

namespace JoinChain

section

variable [KeyHasher]

/-- Input that a run gets through is rows only, and the query is not cancelled while they are
pulled. -/
theorem input_of_processAll {c : JoinChain} {input : List Pull} {s t : ChainState}
    {out : List Row} (h : c.processAll input s = (.ok out, t)) :
    ∃ lefts : List Row, input = lefts.map Pull.ofRow := by
  induction input generalizing s t out with
  | nil => exact ⟨[], rfl⟩
  | cons p rest ih =>
      obtain ⟨left, s₁, hpull, h⟩ := Run.bind_eq_ok h
      obtain ⟨rows, s₂, hrow, h⟩ := Run.bind_eq_ok h
      obtain ⟨others, s₃, hothers, -⟩ := Run.bind_eq_ok h
      obtain ⟨lefts, rfl⟩ := ih hothers
      obtain ⟨hcheck, -⟩ := pushed_of_processRow hrow
      obtain ⟨cancels, item⟩ := p
      cases cancels with
      | true =>
          -- the look at the token before the row finds it cancelled
          obtain ⟨_, s₄, hcancel, hitem⟩ := Run.bind_eq_ok hpull
          obtain ⟨-, rfl⟩ := Run.lift_eq_ok hitem
          obtain ⟨-, rfl⟩ := Prod.mk.inj hcancel
          cases hcheck
      | false =>
          obtain ⟨rfl, -⟩ := Run.lift_eq_ok hpull
          exact ⟨left :: lefts, rfl⟩

def Single (c : JoinChain) (stage : JoinStage) (arity : Nat) (projection : Option Projection) :
    Prop :=
  Accepted arity [stage] c ∧ c.projection = projection

variable {c : JoinChain} {stage : JoinStage} {arity : Nat} {projection : Option Projection}

/-- Joining one row in a chain of one join: the stage's rows, finished. -/
theorem processRow_single (hsingle : c.Single stage arity projection) {s : ChainState}
    {site : Site} (hsites : s.sites = [site]) (hcheck : s.session.check = .ok ()) {left : Row}
    (hleft : left.length = arity) :
    c.processRow left s =
      match Probe.collect ([left].forM stage.probeRow) ⟨s.session, site⟩ with
      | (.ok joined, u) => c.finishRows joined ⟨u.session, [u.site]⟩
      | (.error e, u) => (.error e, ⟨u.session, [u.site]⟩) := by
  obtain ⟨hbase, hstages, -⟩ := hsingle.1.spec
  have hexpect : (left.expectArity c.baseArity).mapError JoinError.shape = .ok () := by
    unfold Row.expectArity
    rw [hbase, if_pos hleft]
    rfl
  have hpush : c.pushAll [left] s =
      match Probe.collect ([left].forM stage.probeRow) ⟨s.session, site⟩ with
      | (.ok joined, u) => (.ok joined, ⟨u.session, [u.site]⟩)
      | (.error e, u) => (.error e, ⟨u.session, [u.site]⟩) := by
    unfold pushAll
    rw [hstages, hsites]
    unfold push
    cases Probe.collect ([left].forM stage.probeRow) ⟨s.session, site⟩ with
    | mk result u =>
        cases result with
        | error e => rfl
        | ok joined => cases joined <;> rfl
  have hlook : (get >>= fun now => liftM now.session.check : Run ChainState Unit) s =
      (.ok (), s) := by
    change (s.session.check, s) = _
    rw [hcheck]
  have hrun : c.processRow left s = (c.pushAll [left] >>= c.finishRows) s := by
    unfold processRow
    rw [hexpect, ← bind_assoc, Run.bind_apply, hlook]
    rfl
  rw [hrun, Run.bind_apply, hpush]
  cases Probe.collect ([left].forM stage.probeRow) ⟨s.session, site⟩ with
  | mk result u => cases result <;> rfl

theorem processRow_single_eq_ok (hsingle : c.Single stage arity projection) {s t : ChainState}
    {site : Site} (hsites : s.sites = [site]) {left : Row} {out : List Row}
    (h : c.processRow left s = (.ok out, t)) :
    left.length = arity ∧
      ∃ joined u, Probe.collect ([left].forM stage.probeRow) ⟨s.session, site⟩ = (.ok joined, u) ∧
        c.finishRows joined ⟨u.session, [u.site]⟩ = (.ok out, t) := by
  obtain ⟨hcheck, hleft, -⟩ := pushed_of_processRow h
  rw [hsingle.1.spec.1] at hleft
  rw [processRow_single hsingle hsites hcheck hleft] at h
  cases hcollect : Probe.collect ([left].forM stage.probeRow) ⟨s.session, site⟩ with
  | mk result u =>
      rw [hcollect] at h
      cases result with
      | error e => cases h
      | ok joined => exact ⟨hleft, joined, u, rfl, h⟩

variable {fresh : JoinStage} {condition : Expr} {right : RightRelation} {config : JoinConfig}
  {rows : List Row} {found : List Value → Except JoinError (List Row)}

/-- What a driving row has come to in a chain of one join: what it comes to in a stage over the
relation always within reach, finished. -/
def Came (c : JoinChain) (fresh : JoinStage) (rows : List Row)
    (found : List Value → Except JoinError (List Row)) (left : Row) (block : List Row) : Prop :=
  left.length = c.baseArity ∧
    ∃ joined s t, fresh.joinRow rows found left = .ok joined ∧
      c.finishRows joined s = (.ok block, t)

theorem came_of_execute (hsingle : c.Single stage arity projection)
    (hjoins : stage.JoinsOn condition arity right config) (hhonest : right.Honest rows found)
    (hmirrors : stage.Mirrors fresh (.ok rows) found fun _ => True)
    (hfresh : fresh.JoinsOn condition arity (right.answering rows found) config)
    {lefts : List Row} {s t : ChainState} {out : List Row}
    (hsites : List.Forall₂ JoinStage.Reached [stage] s.sites)
    (h : c.execute (lefts.map Pull.ofRow) s = (.ok out, t)) :
    ∃ blocks, out = blocks.flatten ∧ List.Forall₂ (c.Came fresh rows found) lefts blocks := by
  have hrow : ∀ left (s : ChainState) out (t : ChainState),
      (∃ site, s.sites = [site] ∧ stage.Reached site) → c.processRow left s = (.ok out, t) →
        (∃ site, t.sites = [site] ∧ stage.Reached site) ∧ c.Came fresh rows found left out := by
    rintro left s out t ⟨site, hsite, hreached⟩ hrow
    obtain ⟨hleft, joined, u, hcollect, hfinish⟩ := processRow_single_eq_ok hsingle hsite hrow
    have hafter := JoinStage.reached_collect [left] (s := ⟨s.session, site⟩) hreached
    rw [hcollect] at hafter
    have hkept := c.finishRows_sites joined ⟨u.session, [u.site]⟩
    rw [hfinish] at hkept
    have hjoined := hjoins.joinRow_of_collect hhonest hmirrors hfresh hleft
      (s := ⟨s.session, site⟩) hreached hcollect
    exact ⟨⟨u.site, hkept, hafter⟩, hleft.trans hsingle.1.spec.1.symm, joined, _, _, hjoined,
      hfinish⟩
  obtain ⟨site, others, hreached, hnone, hsite⟩ := List.forall₂_cons_left_iff.mp hsites
  obtain rfl := List.forall₂_nil_left_iff.mp hnone
  exact blocks_of_processAll hrow lefts ⟨site, hsite, hreached⟩ (processAll_of_execute h)

omit [KeyHasher] in
/-- Blocks that are each some rows up to order are all of them together up to order. -/
theorem flatten_perm_flatMap {loop : Row → List Row} {lefts : List Row}
    {blocks : List (List Row)}
    (h : List.Forall₂ (fun left block => block.Perm (loop left)) lefts blocks) :
    blocks.flatten.Perm (lefts.flatMap loop) := by
  induction h with
  | nil => exact .nil
  | cons hfirst _ ih => exact hfirst.append ih

/-- A join without a projection gives the nested loop, where it succeeds. -/
theorem perm_of_execute_plain (hsingle : c.Single stage arity none)
    (hjoins : stage.JoinsOn condition arity right config) (hhonest : right.Honest rows found)
    {lefts : List Row} {s t : ChainState} {out : List Row}
    (hsites : List.Forall₂ JoinStage.Reached [stage] s.sites)
    (h : c.execute (lefts.map Pull.ofRow) s = (.ok out, t)) :
    out.Perm (lefts.flatMap fun left => nestedLoop condition left rows) := by
  obtain ⟨fresh, hfresh, hmirrors⟩ := hjoins.exists_fresh hhonest
  obtain ⟨blocks, rfl, hblocks⟩ := came_of_execute hsingle hjoins hhonest hmirrors hfresh hsites h
  refine flatten_perm_flatMap (hblocks.imp fun left block hcame => ?_)
  obtain ⟨hleft, joined, s, t, hjoined, hfinish⟩ := hcame
  rw [finishRows, hsingle.2] at hfinish
  obtain ⟨rfl, -⟩ := Run.pure_eq_ok hfinish
  obtain ⟨hsteady, hfinds⟩ := hhonest.steady
  exact hfresh.perm hsteady hfinds (hleft.trans hsingle.1.spec.1) hjoined

/-- What a driving row has come to in a filtered join: the loop over the conjunction. And the
filter has had a truth on every row of the loop. -/
theorem Came.filtered {a b : Expr} {left : Row} {block : List Row}
    (h : c.Came fresh rows found left block) (hsingle : c.Single stage arity (some ⟨some b, []⟩))
    (hhonest : right.Honest rows found)
    (hfresh : fresh.JoinsOn a arity (right.answering rows found) config) :
    block.Perm (nestedLoop (.and [a, b]) left rows) ∧
      ∀ row ∈ nestedLoop a left rows, ∃ truth, b.holds row = .ok truth := by
  obtain ⟨hleft, joined, s, t, hjoined, hfinish⟩ := h
  obtain ⟨hsteady, hfinds⟩ := hhonest.steady
  have hperm := hfresh.perm hsteady hfinds (hleft.trans hsingle.1.spec.1) hjoined
  rw [finishRows, hsingle.2] at hfinish
  cases hrun : Projection.applyAll ⟨some b, []⟩ joined s.session with
  | mk result session =>
      simp only [onSession, hrun] at hfinish
      obtain ⟨rfl, -⟩ := Prod.mk.inj hfinish
      obtain ⟨rfl, htruths⟩ := Projection.applyAll_filter_eq_ok hrun
      refine ⟨?_, fun row member => htruths row (hperm.mem_iff.mpr member)⟩
      rw [← filter_nestedLoop]
      exact hperm.filter _

/-- A join without a projection succeeds on a live query over driving rows that are joined. -/
theorem processAll_of_joined (hsingle : c.Single stage arity none)
    (hjoins : stage.JoinsOn condition arity right config) (hsteady : right.Steady rows found)
    {lefts : List Row} (hlefts : ∀ left ∈ lefts, left.length = arity ∧
      ∃ joined, stage.joinRow rows found left = .ok joined)
    {s : ChainState} {site : Site} (hsites : s.sites = [site]) (hlive : s.session.Live)
    (hslot : stage.SlotHolds rows site) :
    ∃ out t, c.processAll (lefts.map Pull.ofRow) s = (.ok out, t) := by
  induction lefts generalizing s site with
  | nil => exact ⟨[], s, rfl⟩
  | cons left rest ih =>
      obtain ⟨⟨hleft, joined, hjoined⟩, hrest⟩ := List.forall_mem_cons.mp hlefts
      obtain ⟨u, hcollect, hu, hafter⟩ :=
        hjoins.collect_left hsteady hleft (s := ⟨s.session, site⟩) hlive hslot
      have hrow : c.processRow left s = (.ok joined, ⟨u.session, [u.site]⟩) := by
        rw [processRow_single hsingle hsites hlive.check hleft, hcollect, hjoined]
        simp only [finishRows, hsingle.2]
        rfl
      obtain ⟨others, t, hothers⟩ := ih hrest (s := ⟨u.session, [u.site]⟩) rfl hu hafter
      refine ⟨joined ++ others, t, ?_⟩
      rw [List.map_cons, processAll, Run.bind_apply]
      change (c.processRow left >>= _) s = _
      rw [Run.bind_apply, hrow]
      simp only
      rw [Run.bind_apply, hothers]
      rfl

/-- What a filtered cross join tells of a driving row it has got through: the row has its width,
the filter has a truth with every right row, and a side of the right rows is within its limit. -/
theorem Came.crossed {b : Expr} {left : Row} {block : List Row}
    (h : c.Came fresh rows found left block) (hsingle : c.Single stage arity (some ⟨some b, []⟩))
    (hhonest : right.Honest rows found)
    (hfresh : fresh.JoinsOn (.literal (.bool true)) arity (right.answering rows found) config) :
    left.length = arity ∧ (∀ row ∈ rows, ∃ truth, b.holds (left ++ row) = .ok truth) ∧
      ((∀ source, right ≠ .rescan source) → rows.length ≤ BuildSide.rowLimit config) := by
  obtain ⟨-, htruths⟩ := h.filtered hsingle hhonest hfresh
  obtain ⟨hleft, joined, s, t, hjoined, -⟩ := h
  refine ⟨hleft.trans hsingle.1.spec.1, fun row member => htruths _ ?_, fun hright => ?_⟩
  · exact List.mem_filter.mpr ⟨List.mem_map_of_mem member, rfl⟩
  · refine hfresh.limit_of_cross (fun source => ?_) hjoined
    cases right with
    | rescan other => exact absurd rfl (hright other)
    | bounded _ | partitioned _ => exact nofun

/-- ON and WHERE agree. Where the join on two conditions and the join on the first, filtered by
the second, both succeed, they give the same rows up to order, whatever the access, the options,
the sites and the tokens. Where the filter is the only condition, and the filtered cross join
succeeds, so does the join on that condition, on a live query with the same options. -/
theorem on_agrees_with_where {a b : Expr} {onStage whereStage : JoinStage}
    {onChain whereChain : JoinChain} {config' : JoinConfig} {input : List Pull}
    (hhonest : right.Honest rows found)
    (hwhere : whereStage.JoinsOn a arity right config')
    (hwhereChain : whereChain.Single whereStage arity (some ⟨some b, []⟩)) {s t : ChainState}
    {filtered : List Row} (hsites : List.Forall₂ JoinStage.Reached [whereStage] s.sites)
    (hfiltered : whereChain.execute input s = (.ok filtered, t)) :
    (∀ config, onStage.JoinsOn (.and [a, b]) arity right config →
      onChain.Single onStage arity none → ∀ s t joined,
        List.Forall₂ JoinStage.Reached [onStage] s.sites →
        onChain.execute input s = (.ok joined, t) → joined.Perm filtered) ∧
    (a = .literal (.bool true) → right.Steady rows found →
      onStage.JoinsOn b arity right config' → onChain.Single onStage arity none →
        ∀ s : ChainState, s.session.Live → List.Forall₂ JoinStage.Reached [onStage] s.sites →
          ∃ joined t, onChain.execute input s = (.ok joined, t) ∧ joined.Perm filtered) := by
  obtain ⟨lefts, rfl⟩ := input_of_processAll (processAll_of_execute hfiltered)
  obtain ⟨fresh, hfresh, hmirrors⟩ := hwhere.exists_fresh hhonest
  obtain ⟨blocks, rfl, hblocks⟩ :=
    came_of_execute hwhereChain hwhere hhonest hmirrors hfresh hsites hfiltered
  have hperm : blocks.flatten.Perm
      (lefts.flatMap fun left => nestedLoop (.and [a, b]) left rows) :=
    flatten_perm_flatMap (hblocks.imp fun _ _ hcame =>
      (hcame.filtered hwhereChain hhonest hfresh).1)
  constructor
  · intro config hon hchain s t joined hreached hjoined
    exact (perm_of_execute_plain hchain hon hhonest hreached hjoined).trans hperm.symm
  · rintro rfl hsteady hon hchain s hlive hreached
    obtain ⟨hcrossed, -⟩ := (List.forall₂_and_left lefts blocks).mp (hblocks.imp fun _ _ hcame =>
      ⟨hcame.crossed hwhereChain hhonest hfresh, hcame⟩)
    obtain ⟨site, others, hsite, hnone, hslots⟩ := List.forall₂_cons_left_iff.mp hreached
    obtain rfl := List.forall₂_nil_left_iff.mp hnone
    have hslot : onStage.SlotHolds rows site := by
      obtain ⟨-, -, -, rfl, -⟩ := hon.made
      exact hsite.slotHolds hsteady.agrees
    obtain ⟨joined, t, hrun⟩ := processAll_of_joined hchain hon hsteady (fun left member => by
      obtain ⟨hleft, htruths, hlimit⟩ := hcrossed left member
      exact ⟨hleft, hon.joinRow_of_total hsteady hhonest.finds hleft htruths fun haccess =>
        hlimit (hon.ne_rescan haccess)⟩) hslots hlive hslot
    have hexecute : onChain.execute (lefts.map Pull.ofRow) s = (.ok joined, t) :=
      Run.releasingOnCancel_of_ne hrun nofun
    refine ⟨joined, t, hexecute, ?_⟩
    have hsame (left : Row) : nestedLoop (.and [.literal (.bool true), b]) left rows =
        nestedLoop b left rows := by
      unfold nestedLoop
      exact List.filter_congr fun row _ => Expr.accepts_and _ b row
    simp only [hsame] at hperm
    exact (perm_of_execute_plain hchain hon hhonest hreached hexecute).trans hperm.symm

end

/-- A cross join filtered by the equality of two columns, and the join on that equality. -/
theorem on_agrees_with_where_on_keys :
    let right : RightRelation :=
      .bounded ⟨"r", 1, false, fun _ => .ok [[.int32 1], [.null], [.int32 2], [.int32 1]]⟩
    let b : Expr := .columnsEqual 0 1
    let input := [[.int64 1], [.null], [.int32 3]].map Pull.ofRow
    ∃ (onStage whereStage : JoinStage) (onChain whereChain : JoinChain) (s t u : ChainState)
      (joined filtered : List Row),
      onStage.JoinsOn b 1 right {} ∧ onStage.mode = .hashProbe ∧
      whereStage.JoinsOn (.literal (.bool true)) 1 right {} ∧ whereStage.mode = .fullScan ∧
      whereChain.execute input s = (.ok filtered, t) ∧
      filtered = [[.int64 1, .int32 1], [.int64 1, .int32 1]] ∧
      onChain.execute input s = (.ok joined, u) ∧ joined.Perm filtered := by
  intro right b input
  let rows : List Row := [[.int32 1], [.null], [.int32 2], [.int32 1]]
  let onStage : JoinStage :=
    ⟨⟨[0], [0], none, b, 1, 1⟩, right, {}, .hashProbe, .materialized, [], 0⟩
  let whereStage : JoinStage :=
    ⟨⟨[], [], some (.literal (.bool true)), .literal (.bool true), 1, 1⟩, right, {}, .fullScan,
      .materialized, [], 0⟩
  let onChain : JoinChain := ⟨1, [onStage], none, 1⟩
  let whereChain : JoinChain := ⟨1, [whereStage], some ⟨some b, []⟩, 1⟩
  let s : ChainState := ⟨{}, [{}]⟩
  have hsteady : right.Steady rows fun _ => .ok [] :=
    ⟨fun _ => rfl, by decide, fun _ hsource => (nomatch hsource), fun _ _ hanswer row member => by
      obtain rfl := Except.ok.inj hanswer
      cases member⟩
  have hhonest := hsteady.honest fun _ hsource => nomatch hsource
  have hon : onStage.JoinsOn b 1 right {} := ⟨1, _, 0, rfl, rfl⟩
  have hwhere : whereStage.JoinsOn (.literal (.bool true)) 1 right {} := ⟨1, _, 0, rfl, rfl⟩
  have honChain : onChain.Single onStage 1 none := ⟨.created rfl, rfl⟩
  have hwhereChain : whereChain.Single whereStage 1 (some ⟨some b, []⟩) :=
    ⟨.projected ⟨some b, []⟩ (.created rfl) rfl, rfl⟩
  have hlive : s.session.Live := ⟨rfl, fun n h => nomatch h⟩
  have hwhereSites : List.Forall₂ JoinStage.Reached [whereStage] s.sites := .cons .fresh .nil
  have honSites : List.Forall₂ JoinStage.Reached [onStage] s.sites := .cons .fresh .nil
  have hout : (whereChain.execute input s).1.toOption =
      some [[.int64 1, .int32 1], [.int64 1, .int32 1]] := by decide +kernel
  cases hrun : whereChain.execute input s with
  | mk result t =>
      rw [hrun] at hout
      cases result with
      | error e => cases hout
      | ok filtered =>
          obtain ⟨joined, u, hjoined, hperm⟩ :=
            (on_agrees_with_where hhonest hwhere hwhereChain hwhereSites hrun).2 rfl hsteady hon
              honChain s hlive honSites
          exact ⟨onStage, whereStage, onChain, whereChain, s, t, u, joined, filtered, hon, rfl,
            hwhere, rfl, hrun, Option.some.inj hout, hjoined, hperm⟩

end JoinChain

end JoinEngine
