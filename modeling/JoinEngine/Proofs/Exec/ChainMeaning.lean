import JoinEngine.Exec.Chain
import JoinEngine.Proofs.Exec.MultiJoin
import JoinEngine.Proofs.Exec.Projected

/-!
A chain computes the nested loops of all its sites. Every stage gives, up to order, the loop of
its own site over the rows that reach it, so pushing a driving row through the stages gives the
nested loops of their sites; a site that lets nothing through may end the push because the loops
behind it have nothing to join. `SitesReady` is the invariant between driving rows: each stage
fits the width of the rows that reach it, and its slot holds nothing but the side it should.
-/

namespace JoinEngine

/-- Collected steps give the rows they emit. -/
theorem Probe.Emits.collect {inv : Session → Site → Prop} {steps : Probe Unit}
    {outcome : Except JoinError (List Row)} (h : Probe.Emits inv steps outcome) {s : StageState}
    (hs : inv s.session s.site) :
    ∃ t, Probe.collect steps s = (outcome, t) ∧ inv t.session t.site := by
  obtain ⟨t, hrun, ht, hrows⟩ := h ⟨s.session, s.site, #[]⟩ hs
  refine ⟨⟨t.session, t.site⟩, ?_, ht⟩
  unfold Probe.collect
  rw [hrun]
  cases outcome with
  | error e => rfl
  | ok rows =>
      have hemitted : t.emitted.toList = rows := by simpa using hrows rows rfl
      rw [← hemitted]
      rfl

/-- Outcomes that each give some rows up to order give them all up to order. -/
theorem perm_of_flatMapM {α β ε : Type} {items : List α} {outcome : α → Except ε (List β)}
    {expected : α → List β}
    (h : ∀ a ∈ items, ∀ part, outcome a = .ok part → part.Perm (expected a)) {out : List β}
    (hok : items.flatMapM outcome = .ok out) : out.Perm (items.flatMap expected) := by
  induction items generalizing out with
  | nil =>
      obtain rfl := Except.ok.inj hok
      exact .nil
  | cons a rest ih =>
      rw [List.flatMapM_cons] at hok
      obtain ⟨part, hfirst, hok⟩ := exists_of_bind_eq_ok hok
      obtain ⟨others, hrest, hok⟩ := exists_of_bind_eq_ok hok
      obtain rfl := Except.ok.inj hok
      have hpart := h a List.mem_cons_self part hfirst
      have hothers := ih (fun b member => h b (List.mem_cons_of_mem a member)) hrest
      exact hpart.append hothers

namespace JoinStage

variable [KeyHasher] {stage : JoinStage} {site : LoopSite}

/-- The stage was created for the site: over its split condition and a relation in memory that
holds its rows. -/
def Joins (stage : JoinStage) (site : LoopSite) : Prop :=
  ∃ leftArity rightArity d right config relation,
    JoinDescriptor.classify site.1 leftArity rightArity = .ok d ∧
      right.InMemory site.2 ∧ create d right config relation = .ok stage

theorem Joins.spec (h : stage.Joins site) :
    stage.Made ∧ stage.descriptor.condition = site.1 ∧
      ∃ found, stage.right.Steady site.2 found ∧ stage.right.Finds site.2 found := by
  obtain ⟨_, _, d, right, config, relation, hclassify, hright, hcreate⟩ := h
  obtain ⟨hmade, hcondition, -, -, rfl, -⟩ := made_of_create hclassify hcreate
  exact ⟨hmade, hcondition, hright.steady⟩

theorem Joins.arities (h : stage.Joins site) :
    ∀ row ∈ site.2, row.length = stage.descriptor.rightArity := by
  obtain ⟨hmade, -, found, hsteady, -⟩ := h.spec
  intro row member
  rw [hsteady.arities row member, hmade.arity]

/-- Rows pushed through a stage give the loops of its site over each of them. -/
theorem Joins.collect (h : stage.Joins site) {rows : List Row}
    (hrows : ∀ row ∈ rows, row.length = stage.descriptor.leftArity) {s t : StageState}
    (hlive : s.session.Live) (hslot : stage.SlotHolds site.2 s.site) {out : List Row}
    (hrun : Probe.collect (rows.forM stage.probeRow) s = (.ok out, t)) :
    out.Perm (rows.flatMap fun left => nestedLoop site.1 left site.2) ∧
      t.session.Live ∧ stage.SlotHolds site.2 t.site := by
  obtain ⟨hmade, hcondition, found, hsteady, hfinds⟩ := h.spec
  have hemits : Probe.Emits (stage.Ready site.2) (rows.forM stage.probeRow)
      (rows.flatMapM (stage.joinRow site.2 found)) :=
    Probe.emits_forM fun left member => probeRow_emits hsteady hmade.arity (hrows left member)
  obtain ⟨u, hcollect, hready⟩ := hemits.collect (s := s) ⟨hlive, hslot⟩
  rw [hrun] at hcollect
  obtain ⟨hout, rfl⟩ := Prod.mk.inj hcollect
  refine ⟨perm_of_flatMapM (fun left member part hpart => ?_) hout.symm, hready⟩
  rcases joinRow_loopOutcome hmade hsteady hfinds (hrows left member) with
    ⟨emitted, hok, hordered⟩ | ⟨⟨e, herror⟩, -⟩
  · rw [hok] at hpart
    obtain rfl := Except.ok.inj hpart
    rw [← hcondition]
    exact hordered.perm
  · rw [herror] at hpart
    cases hpart

end JoinStage

namespace JoinChain

section

variable [KeyHasher]

/-- The invariant of a chain between driving rows: from some width on, every stage joins its
site, takes rows as wide as the stages before it leave them, and has a slot that holds no side
but its own. -/
inductive SitesReady : Nat → List JoinStage → List LoopSite → List Site → Prop where
  | nil (width : Nat) : SitesReady width [] [] []
  | cons {width : Nat} {stage : JoinStage} {site : LoopSite} {slot : Site}
      {stages : List JoinStage} {sites : List LoopSite} {slots : List Site} :
      stage.Joins site → stage.descriptor.leftArity = width → stage.SlotHolds site.2 slot →
      SitesReady (width + stage.descriptor.rightArity) stages sites slots →
      SitesReady width (stage :: stages) (site :: sites) (slot :: slots)

theorem sitesReady_of_widths {stages : List JoinStage} {sites : List LoopSite}
    (hjoins : List.Forall₂ JoinStage.Joins stages sites) {slots : List Site}
    (hreached : List.Forall₂ JoinStage.Reached stages slots) {position width : Nat}
    (hwidths : checkWidths position width stages = .ok ()) :
    SitesReady width stages sites slots := by
  induction hjoins generalizing slots position width with
  | nil =>
      cases hreached
      exact .nil width
  | cons hstage _ ih =>
      cases hreached with
      | cons hslot hslots =>
          unfold checkWidths at hwidths
          split at hwidths
          · cases hwidths
          next hleft =>
            obtain ⟨-, -, found, hsteady, -⟩ := hstage.spec
            exact .cons hstage (Decidable.not_not.mp hleft) (hslot.slotHolds hsteady.agrees)
              (ih hslots hwidths)

/-- Rows behind a site are as wide as the left rows and the right rows together. -/
theorem length_of_mem_nestedLoop {stage : JoinStage} {site : LoopSite} (h : stage.Joins site)
    {left row : Row} (member : row ∈ nestedLoop site.1 left site.2) :
    row.length = left.length + stage.descriptor.rightArity := by
  obtain ⟨right, hright, rfl⟩ := List.mem_map.mp (List.mem_filter.mp member).1
  rw [List.length_append, h.arities right hright]

theorem length_of_mem_multiJoin {width : Nat} {stages : List JoinStage} {sites : List LoopSite}
    {slots : List Site} (h : SitesReady width stages sites slots) {left row : Row}
    (hleft : left.length = width) (member : row ∈ multiJoin sites left) :
    row.length =
      stages.foldl (fun width stage => width + stage.descriptor.rightArity) width := by
  induction h generalizing left with
  | nil width =>
      obtain rfl := List.mem_singleton.mp member
      exact hleft
  | cons hjoins _ _ _ ih =>
      obtain ⟨next, hnext, hrow⟩ := List.mem_flatMap.mp member
      have hwidth := length_of_mem_nestedLoop hjoins hnext
      rw [hleft] at hwidth
      exact ih hwidth hrow

/-- A push that succeeds either ends at its first stage, which lets nothing through, or goes on
with what that stage gives. -/
theorem push_cons_eq_ok {stage : JoinStage} {stages : List JoinStage} {slot : Site}
    {slots others : List Site} {rows out : List Row} {session final : Session}
    (h : push (stage :: stages) (slot :: slots) rows session = (.ok out, others, final)) :
    ∃ next t, Probe.collect (rows.forM stage.probeRow) ⟨session, slot⟩ = (.ok next, t) ∧
      (next = [] ∧ out = [] ∧ others = t.site :: slots ∧ final = t.session ∨
        ∃ after, push stages slots next t.session = (.ok out, after, final) ∧
          others = t.site :: after) := by
  unfold push at h
  cases hcollect : Probe.collect (rows.forM stage.probeRow) ⟨session, slot⟩ with
  | mk result t =>
      rw [hcollect] at h
      cases result with
      | error e => cases h
      | ok next =>
          refine ⟨next, t, rfl, ?_⟩
          cases next with
          | nil =>
              obtain ⟨hout, hrest⟩ := Prod.mk.inj h
              obtain ⟨hothers, hfinal⟩ := Prod.mk.inj hrest
              exact Or.inl ⟨rfl, (Except.ok.inj hout).symm, hothers.symm, hfinal.symm⟩
          | cons row rest =>
              cases hpush : push stages slots (row :: rest) t.session with
              | mk result after =>
                  simp only [hpush] at h
                  obtain ⟨rfl, hafter⟩ := Prod.mk.inj h
                  obtain ⟨rfl, rfl⟩ := Prod.mk.inj hafter
                  exact Or.inr ⟨after.1, rfl, rfl⟩

/-- Rows pushed through stages give the nested loops of their sites over each of them. -/
theorem push_eq_ok {width : Nat} {stages : List JoinStage} {sites : List LoopSite}
    {slots others : List Site} (h : SitesReady width stages sites slots) {rows out : List Row}
    (hrows : ∀ row ∈ rows, row.length = width) {session final : Session} (hlive : session.Live)
    (hrun : push stages slots rows session = (.ok out, others, final)) :
    out.Perm (rows.flatMap (multiJoin sites)) ∧ final.Live ∧
      SitesReady width stages sites others := by
  induction h generalizing rows out others session with
  | nil width =>
      obtain ⟨hout, hrest⟩ := Prod.mk.inj hrun
      obtain ⟨rfl, rfl⟩ := Prod.mk.inj hrest
      obtain rfl := Except.ok.inj hout
      refine ⟨?_, hlive, .nil width⟩
      simp [multiJoin]
  | @cons width stage site slot stages sites slots hjoins hleft hslot hready ih =>
      have hmulti : rows.flatMap (multiJoin (site :: sites)) =
          (rows.flatMap fun left => nestedLoop site.1 left site.2).flatMap (multiJoin sites) := by
        rw [List.flatMap_assoc]
        rfl
      rw [hmulti]
      obtain ⟨next, t, hcollect, hgoes⟩ := push_cons_eq_ok hrun
      obtain ⟨hperm, ht, hkept⟩ := hjoins.collect (by rwa [hleft]) hlive hslot hcollect
      rcases hgoes with ⟨rfl, rfl, rfl, rfl⟩ | ⟨after, hpush, rfl⟩
      · -- nothing is left to join, so the loops behind this site give nothing
        rw [List.nil_perm.mp hperm]
        exact ⟨.nil, ht, .cons hjoins hleft hkept hready⟩
      · have hwidth : ∀ joined ∈ next, joined.length = width + stage.descriptor.rightArity := by
          intro joined member
          obtain ⟨left, hmem, hloop⟩ := List.mem_flatMap.mp (hperm.mem_iff.mp member)
          rw [length_of_mem_nestedLoop hjoins hloop, hrows left hmem]
        obtain ⟨hout, hfinal, hslots⟩ := ih hwidth ht hpush
        exact ⟨hout.trans (hperm.flatMap_right _), hfinal, .cons hjoins hleft hkept hslots⟩

def rowProjection (c : JoinChain) : Projection := c.projection.getD {}

/-- The rows that one driving row has come to: in some order, one row made of each selected
choice that the filter lets through. -/
def Outputs (c : JoinChain) (sites : List LoopSite) (left : Row) (out : List Row) : Prop :=
  ∃ joined : List Row, joined.Perm ((selection sites left).filter c.rowProjection.lets) ∧
    List.Forall₂ c.rowProjection.Makes joined out

omit [KeyHasher] in
theorem finishRows_eq_ok {c : JoinChain} {rows out : List Row} {s t : ChainState}
    (hlive : s.session.Live) (h : c.finishRows rows s = (.ok out, t)) :
    t.session.Live ∧ t.sites = s.sites ∧
      List.Forall₂ c.rowProjection.Makes (rows.filter c.rowProjection.lets) out := by
  unfold finishRows at h
  unfold rowProjection
  cases hprojection : c.projection with
  | none =>
      rw [hprojection] at h
      obtain ⟨rfl, rfl⟩ := Run.pure_eq_ok h
      refine ⟨hlive, rfl, ?_⟩
      have hall : rows.filter ((none : Option Projection).getD {}).lets = rows :=
        List.filter_eq_self.mpr fun _ _ => rfl
      rw [hall]
      apply List.forall₂_same.mpr
      intro row _
      exact ⟨fun _ => rfl, fun hsome => absurd rfl hsome⟩
  | some p =>
      rw [hprojection] at h
      cases hrun : p.applyAll rows s.session with
      | mk result session =>
          simp only [onSession, hrun] at h
          obtain ⟨rfl, rfl⟩ := Prod.mk.inj h
          obtain ⟨hfinal, hmakes⟩ := Projection.applyAll_eq_ok hlive hrun
          exact ⟨hfinal, rfl, hmakes⟩

omit [KeyHasher] in
theorem length_of_makes {c : JoinChain} {joined out : List Row}
    (h : List.Forall₂ c.rowProjection.Makes joined out)
    (hwidth : ∀ row ∈ joined, row.length = c.joinedArity) :
    ∀ row ∈ out, row.length = c.outputArity := by
  have harity : c.outputArity = c.rowProjection.outputArity c.joinedArity := by
    unfold outputArity rowProjection
    cases c.projection <;> rfl
  induction h with
  | nil => simp
  | cons hmakes _ ih =>
      intro row member
      rcases List.mem_cons.mp member with rfl | hrest
      · rw [hmakes.length, hwidth _ List.mem_cons_self, harity]
      · exact ih (fun other hother => hwidth other (List.mem_cons_of_mem _ hother)) row hrest

def Ready (c : JoinChain) (sites : List LoopSite) (s : ChainState) : Prop :=
  s.session.Live ∧ SitesReady c.baseArity c.stages sites s.sites

omit [KeyHasher] in
theorem finishRows_sites (c : JoinChain) (rows : List Row) (s : ChainState) :
    (c.finishRows rows s).2.sites = s.sites := by
  unfold finishRows
  cases c.projection <;> rfl

/-- Processing a driving row succeeds only on a query that is not cancelled and with a row of the
width of driving rows; the row is pushed through the sites, and what comes through is finished. -/
theorem pushed_of_processRow {c : JoinChain} {left : Row} {out : List Row} {s t : ChainState}
    (h : c.processRow left s = (.ok out, t)) :
    s.session.check = .ok () ∧ left.length = c.baseArity ∧
      ∃ rows sites session, push c.stages s.sites [left] s.session = (.ok rows, sites, session) ∧
        c.finishRows rows ⟨session, sites⟩ = (.ok out, t) := by
  obtain ⟨now, s₁, hget, h⟩ := Run.bind_eq_ok h
  obtain ⟨rfl, rfl⟩ := Run.get_eq_ok hget
  obtain ⟨_, s₂, hlook, h⟩ := Run.bind_eq_ok h
  obtain ⟨hcheck, rfl⟩ := Run.lift_eq_ok hlook
  obtain ⟨_, s₃, hexpect, h⟩ := Run.bind_eq_ok h
  obtain ⟨harity, rfl⟩ := Run.lift_eq_ok hexpect
  obtain ⟨rows, s₄, hpushed, hfinish⟩ := Run.bind_eq_ok h
  refine ⟨hcheck, Row.length_of_expectArity harity, ?_⟩
  cases hpush : push c.stages s.sites [left] s.session with
  | mk result after =>
      simp only [pushAll, hpush] at hpushed
      obtain ⟨rfl, rfl⟩ := Prod.mk.inj hpushed
      exact ⟨rows, after.1, after.2, rfl, hfinish⟩

/-- One driving row comes to the rows of its selected choices. -/
theorem processRow_eq_ok {c : JoinChain} {sites : List LoopSite} {s t : ChainState}
    (hready : c.Ready sites s) {left : Row} {out : List Row}
    (h : c.processRow left s = (.ok out, t)) :
    c.Ready sites t ∧ c.Outputs sites left out ∧ ∀ row ∈ out, row.length = c.outputArity := by
  obtain ⟨hlive, hsites⟩ := hready
  obtain ⟨-, hleft, rows, after, session, hpush, hfinish⟩ := pushed_of_processRow h
  have hone : ∀ row ∈ [left], row.length = c.baseArity := by
    intro row member
    rw [List.mem_singleton.mp member, hleft]
  obtain ⟨hperm, hlive, hsites⟩ := push_eq_ok hsites hone hlive hpush
  obtain ⟨hfinal, hkept, hmakes⟩ := finishRows_eq_ok hlive hfinish
  rw [List.flatMap_singleton] at hperm
  have hwidth : ∀ row ∈ rows, row.length = c.joinedArity := by
    intro row member
    exact length_of_mem_multiJoin hsites hleft (hperm.mem_iff.mp member)
  refine ⟨⟨hfinal, by rw [hkept]; exact hsites⟩, ⟨_, ?_, hmakes⟩, ?_⟩
  · exact (hperm.trans (multiJoin_perm_selection sites left)).filter _
  · apply length_of_makes hmakes
    intro row member
    exact hwidth row (List.mem_filter.mp member).1

/-- A run over driving rows that succeeds gives one block of rows for each of them, in order, and
what holds of the rows that any one driving row comes to holds of its block. -/
theorem blocks_of_processAll {c : JoinChain} {inv : ChainState → Prop}
    {comes : Row → List Row → Prop}
    (hrow : ∀ left s out t, inv s → c.processRow left s = (.ok out, t) →
      inv t ∧ comes left out) (input : List Row) {s t : ChainState} (hs : inv s) {out : List Row}
    (h : c.processAll (input.map Pull.ofRow) s = (.ok out, t)) :
    ∃ blocks, out = blocks.flatten ∧ List.Forall₂ comes input blocks := by
  induction input generalizing s t out with
  | nil =>
      obtain ⟨rfl, -⟩ := Run.pure_eq_ok h
      exact ⟨[], rfl, .nil⟩
  | cons left rest ih =>
      obtain ⟨pulled, s₁, hpull, h⟩ := Run.bind_eq_ok h
      obtain ⟨rfl, rfl⟩ := Run.pure_eq_ok hpull
      obtain ⟨rows, s₂, hfirst, h⟩ := Run.bind_eq_ok h
      obtain ⟨others, s₃, hothers, h⟩ := Run.bind_eq_ok h
      obtain ⟨rfl, -⟩ := Run.pure_eq_ok h
      obtain ⟨hnext, hcomes⟩ := hrow _ _ _ _ hs hfirst
      obtain ⟨blocks, rfl, hblocks⟩ := ih hnext hothers
      exact ⟨rows :: blocks, rfl, .cons hcomes hblocks⟩

/-- The rows of several driving rows are those of each, in the order of the driving rows. -/
theorem processAll_eq_ok {c : JoinChain} {sites : List LoopSite} (input : List Row)
    {s t : ChainState} (hready : c.Ready sites s) {out : List Row}
    (h : c.processAll (input.map Pull.ofRow) s = (.ok out, t)) :
    (∃ blocks, out = blocks.flatten ∧ List.Forall₂ (c.Outputs sites) input blocks) ∧
      ∀ row ∈ out, row.length = c.outputArity := by
  obtain ⟨blocks, rfl, hblocks⟩ :=
    blocks_of_processAll (fun _ _ _ _ hs hrow => processRow_eq_ok hs hrow) input hready h
  refine ⟨⟨blocks, rfl, hblocks.imp fun _ _ hblock => hblock.1⟩, ?_⟩
  clear h
  induction hblocks with
  | nil => simp
  | cons hfirst _ ih =>
      intro row member
      rw [List.flatten_cons] at member
      exact (List.mem_append.mp member).elim (hfirst.2 row) (ih row)

/-- A run that succeeds is not cancelled at its end, so it is the loop over its driving rows. -/
theorem processAll_of_execute {c : JoinChain} {input : List Pull} {s t : ChainState}
    {out : List Row} (h : c.execute input s = (.ok out, t)) :
    c.processAll input s = (.ok out, t) :=
  Run.releasingOnCancel_eq_ok h

inductive Accepted (baseArity : Nat) (stages : List JoinStage) : JoinChain → Prop where
  | created {c : JoinChain} : create baseArity stages = .ok c → Accepted baseArity stages c
  | projected {c next : JoinChain} (p : Projection) :
      Accepted baseArity stages c → c.withProjection p = .ok next →
      Accepted baseArity stages next
  | parallel {c : JoinChain} (n : Nat) :
      Accepted baseArity stages c → Accepted baseArity stages (c.withParallelism n)

omit [KeyHasher] in
theorem Accepted.spec {baseArity : Nat} {stages : List JoinStage} {c : JoinChain}
    (h : Accepted baseArity stages c) :
    c.baseArity = baseArity ∧ c.stages = stages ∧ checkWidths 0 baseArity stages = .ok () := by
  induction h with
  | created hcreate =>
      obtain ⟨u, hwidths, hchain⟩ := exists_of_bind_eq_ok hcreate
      obtain rfl := Except.ok.inj hchain
      exact ⟨rfl, rfl, hwidths⟩
  | projected p _ hprojected ih =>
      obtain ⟨u, -, hchain⟩ := exists_of_bind_eq_ok hprojected
      obtain rfl := Except.ok.inj hchain
      exact ih
  | parallel n _ ih => exact ih

/-- A chain computes the nested loops of all its sites. Over stages created for the sites, at
any slots the stages can come to and while the query is live, a run over driving rows that
succeeds gives a block of rows for each driving row, in order. A block has, for each choice of
one right row per site on which all conditions and the filter are true, the row made of it; and
all rows have as many values as the chain says. -/
theorem execute_computes_selection {baseArity : Nat} {stages : List JoinStage}
    {sites : List LoopSite} {chain : JoinChain} {s t : ChainState} {input out : List Row}
    (hstages : List.Forall₂ JoinStage.Joins stages sites)
    (hchain : Accepted baseArity stages chain) (hlive : s.session.Live)
    (hsites : List.Forall₂ JoinStage.Reached stages s.sites)
    (hrun : chain.execute (input.map Pull.ofRow) s = (.ok out, t)) :
    (∃ blocks, out = blocks.flatten ∧ List.Forall₂ (chain.Outputs sites) input blocks) ∧
      ∀ row ∈ out, row.length = chain.outputArity := by
  obtain ⟨hbase, hsame, hwidths⟩ := hchain.spec
  have hready : chain.Ready sites s := by
    refine ⟨hlive, ?_⟩
    rw [hbase, hsame]
    exact sitesReady_of_widths hstages hsites hwidths
  apply processAll_eq_ok input hready (t := t)
  unfold execute releasingOnCancel at hrun
  split at hrun
  · cases hrun
  · exact hrun

end

/-- A right row that is listed twice counts twice, a driving row without matches ends early, and
an unknown filter drops its row. -/
theorem execute_joins_filters_projects :
    let first : LoopSite :=
      (.compare .lt (.column 0) (.column 1), [[.int32 1], [.int32 2], [.int32 2]])
    let second : LoopSite := (.literal (.bool true), [[.int32 7], [.null]])
    let filter : Expr := .compare .gt (.column 2) (.literal (.int32 5))
    let input : List Row := [[.int32 1], [.int32 3]]
    ∃ (chain : JoinChain) (s t : ChainState) (out : List Row),
      chain.rowProjection = ⟨some filter, [.column 1, .column 2]⟩ ∧
      chain.execute (input.map Pull.ofRow) s = (.ok out, t) ∧
      out = [[.int32 2, .int32 7], [.int32 2, .int32 7]] ∧
      ∃ blocks, out = blocks.flatten ∧
        List.Forall₂ (chain.Outputs [first, second]) input blocks := by
  intro first second filter input
  let d₁ : JoinDescriptor := ⟨[], [], some first.1, first.1, 1, 1⟩
  let d₂ : JoinDescriptor := ⟨[], [], some second.1, second.1, 2, 1⟩
  let a : MemoryRelation := ⟨"a", 1, first.2, false⟩
  let b : MemoryRelation := ⟨"b", 1, second.2, false⟩
  let stage₁ : JoinStage := ⟨d₁, .rescan a.source, {}, .fullScan, .rescan, [], 0⟩
  let stage₂ : JoinStage := ⟨d₂, .bounded b.source, {}, .fullScan, .materialized, [], 1⟩
  let p : Projection := ⟨some filter, [.column 1, .column 2]⟩
  let chain : JoinChain := ⟨1, [stage₁, stage₂], some p, 1⟩
  let s : ChainState := ⟨{}, [{}, {}]⟩
  have ha : MemoryRelation.ofRows "a" 1 first.2 false = .ok a := rfl
  have hb : MemoryRelation.ofRows "b" 1 second.2 false = .ok b := rfl
  have hfirst : stage₁.Joins first := ⟨1, 1, d₁, _, {}, 0, rfl, .rescan ha, rfl⟩
  have hsecond : stage₂.Joins second := ⟨2, 1, d₂, _, {}, 1, rfl, .bounded hb, rfl⟩
  have hstages : List.Forall₂ JoinStage.Joins [stage₁, stage₂] [first, second] :=
    .cons hfirst (.cons hsecond .nil)
  have hchain : Accepted 1 [stage₁, stage₂] chain := .projected p (.created rfl) rfl
  have hlive : s.session.Live := ⟨rfl, fun n h => nomatch h⟩
  have hsites : List.Forall₂ JoinStage.Reached [stage₁, stage₂] s.sites :=
    .cons .fresh (.cons .fresh .nil)
  have hout : (chain.execute (input.map Pull.ofRow) s).1.toOption =
      some [[.int32 2, .int32 7], [.int32 2, .int32 7]] := by decide +kernel
  cases hrun : chain.execute (input.map Pull.ofRow) s with
  | mk result t =>
      rw [hrun] at hout
      cases result with
      | error e => cases hout
      | ok out =>
          obtain ⟨hblocks, -⟩ := execute_computes_selection hstages hchain hlive hsites hrun
          exact ⟨chain, s, t, out, rfl, hrun, Option.some.inj hout, hblocks⟩

end JoinChain

end JoinEngine
