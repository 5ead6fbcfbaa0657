import Mathlib.Data.List.Forall2
import Mathlib.Tactic.Choose
import JoinEngine.Exec.Chain
import JoinEngine.Proofs.Exec.SideBySide

/-!
Driving rows that are decided. While the query is live and no relation changes, what a driving
row comes to does not depend on the rows before it, nor on who joined them: a chain at rest may
hold sides already or not, but only the sides that it would make itself. `JoinStage.gives` is what
left rows come to at a new stage, `rowOutcome` what follows from it for a driving row, and
`settles_processRow` says that the row comes to this on every chain at rest.
-/

namespace JoinEngine

namespace Run

variable {σ α β : Type} {inv : σ → Prop}

/-- From all states with the invariant the steps come to the outcome, and to a state with the
invariant. -/
def Settles (inv : σ → Prop) (steps : Run σ α) (outcome : Except JoinError α) : Prop :=
  ∀ s, inv s → (steps s).1 = outcome ∧ inv (steps s).2

def Decided (inv : σ → Prop) (steps : Run σ α) : Prop :=
  ∃ outcome, Settles inv steps outcome

theorem settles_pure (a : α) : Settles inv (pure a) (.ok a) :=
  fun _ hs => ⟨rfl, hs⟩

theorem settles_lift (outcome : Except JoinError α) : Settles inv (liftM outcome) outcome :=
  fun _ hs => ⟨rfl, hs⟩

theorem settles_modify {change : σ → σ} (h : ∀ s, inv s → inv (change s)) :
    Settles inv (modify change) (.ok ()) :=
  fun s hs => ⟨rfl, h s hs⟩

theorem Settles.bind {first : Run σ α} {next : α → Run σ β} {outcome : Except JoinError α}
    {rest : α → Except JoinError β} (hfirst : Settles inv first outcome)
    (hnext : ∀ a, Settles inv (next a) (rest a)) :
    Settles inv (first >>= next) (outcome >>= rest) := by
  intro s hs
  obtain ⟨hresult, hinv⟩ := hfirst s hs
  rw [bind_apply]
  cases hrun : first s with
  | mk result t =>
      rw [hrun] at hresult hinv
      subst hresult
      cases result with
      | error e => exact ⟨rfl, hinv⟩
      | ok a => exact hnext a t hinv

theorem Decided.bind {first : Run σ α} {next : α → Run σ β} (hfirst : Decided inv first)
    (hnext : ∀ a, Decided inv (next a)) : Decided inv (first >>= next) := by
  obtain ⟨outcome, hfirst⟩ := hfirst
  choose rest hrest using hnext
  exact ⟨_, hfirst.bind hrest⟩

/-- Cleaning up after a cancellation does not change the outcome. -/
theorem Settles.releasing {steps : Run σ α} {outcome : Except JoinError α} {release : σ → σ}
    (h : Settles inv steps outcome) (hrelease : ∀ s, inv s → inv (release s)) :
    Settles inv (releasingOnCancel release steps) outcome := by
  intro s hs
  obtain ⟨hresult, hinv⟩ := h s hs
  cases hrun : steps s with
  | mk result t =>
      rw [hrun] at hresult hinv
      subst hresult
      by_cases hcancelled : result = .error .cancelled
      · subst hcancelled
        rw [releasingOnCancel_of_cancelled hrun]
        exact ⟨rfl, hrelease t hinv⟩
      · rw [releasingOnCancel_of_ne hrun hcancelled]
        exact ⟨rfl, hinv⟩

end Run

open Run

theorem RightRelation.Constant.answers {right : RightRelation} (h : right.Constant) :
    ∃ found, right.Answers (right.scan 0) found fun _ => False := by
  obtain ⟨scanned, found, hanswers⟩ := h
  rcases hanswers.scan 0 with hscan | ⟨_, hnever, -⟩
  · exact ⟨found, hscan ▸ hanswers⟩
  · exact hnever.elim

theorem RightRelation.Constant.scan {right : RightRelation} (h : right.Constant) (n : Nat) :
    right.scan n = right.scan 0 := by
  obtain ⟨_, hanswers⟩ := h.answers
  rcases hanswers.scan n with hscan | ⟨_, hnever, -⟩
  · exact hscan
  · exact hnever.elim

namespace Probe

def emittedBy (steps : Probe Unit) (s : ProbeState) : Except JoinError (List Row) :=
  (steps s).1.map fun _ => (steps s).2.emitted.toList

theorem collect_apply (steps : Probe Unit) (s : StageState) :
    collect steps s = (emittedBy steps s.probing,
      ⟨(steps s.probing).2.session, (steps s.probing).2.site⟩) := by
  unfold collect emittedBy StageState.probing
  cases steps ⟨s.session, s.site, #[]⟩ with
  | mk result t => cases result <;> rfl

end Probe

open Probe

namespace JoinStage

variable [KeyHasher] {stage : JoinStage}

def SlotSound (stage : JoinStage) (site : Site) : Prop :=
  stage.SlotFrom (stage.right.scan 0) site

/-- The query is live, and the slot is sound. -/
def AtRest (stage : JoinStage) (s : StageState) : Prop :=
  s.session.Live ∧ stage.SlotSound s.site

theorem Reached.slotSound (hconstant : stage.right.Constant) {site : Site}
    (h : stage.Reached site) : stage.SlotSound site := by
  refine h.slot fun n rows side hrows hside => ?_
  rw [← hconstant.scan n, hrows]
  exact hside

/-- The contract of a stage at rest; nothing is asked of rows and errors. -/
def restContract (stage : JoinStage) : ProbeContract where
  inv s := s.session.Live ∧ stage.SlotSound s.site

theorem probes_restContract (hconstant : stage.right.Constant) (left : Row) :
    stage.Probes left stage.restContract := by
  apply probes_of_kept
  case counted => exact fun _ _ hs => hs
  case evaluated => exact fun _ hs => ⟨hs.1.countEvaluation, hs.2⟩
  case emitted => exact fun _ _ hs => hs
  case called => exact fun _ _ hs => hs
  case emptied => exact fun _ hs => ⟨hs.1, fun _ hside => nomatch hside⟩
  case filled =>
    intro s n rows side hrows hside hs
    refine ⟨hs.1, fun other hother => ?_⟩
    obtain rfl := Option.some.inj hother
    rw [← hconstant.scan n, hrows]
    exact hside

/-- What is in the buffer after a new stage has joined some left rows into it. -/
def gives (stage : JoinStage) (lefts : List Row) (buffer : Array Row) :
    Except JoinError (List Row) :=
  emittedBy (lefts.forM stage.probeRow) ⟨{}, {}, buffer⟩

theorem keeps_atRest (hconstant : stage.right.Constant) (lefts : List Row) {s : ProbeState}
    (hs : stage.AtRest ⟨s.session, s.site⟩) :
    stage.AtRest
      ⟨(lefts.forM stage.probeRow s).2.session, (lefts.forM stage.probeRow s).2.site⟩ := by
  have hall : stage.restContract.Allows (lefts.forM stage.probeRow) :=
    ProbeContract.allows_forM fun left _ => allows_probeRow (probes_restContract hconstant left)
  exact (hall s hs).1

/-- What a stage at rest gives for some left rows does not depend on how it came to rest. -/
theorem emittedBy_eq_gives (hconstant : stage.right.Constant) (lefts : List Row) {s : ProbeState}
    (hs : stage.AtRest ⟨s.session, s.site⟩) :
    emittedBy (lefts.forM stage.probeRow) s = stage.gives lefts s.emitted := by
  obtain ⟨found, hanswers⟩ := hconstant.answers
  have hmirrors : stage.Mirrors stage (stage.right.scan 0) found fun _ => False :=
    ⟨rfl, rfl, rfl, rfl, rfl, rfl, Or.inr (sidesAlike_refl _), hanswers, hanswers⟩
  let new : ProbeState := ⟨{}, {}, s.emitted⟩
  have haligned : stage.Aligned stage .shared (stage.right.scan 0)
      (s.session.calls.of stage.relation) s new :=
    ⟨.live hs.1 ⟨rfl, nofun⟩, rfl, hs.2, fun _ hside => (nomatch hside), Calls.upTo_refl _⟩
  have hrows : stage.Alongside stage .shared (stage.right.scan 0) (fun _ => False)
      (s.session.calls.of stage.relation) (lefts.forM stage.probeRow) (lefts.forM stage.probeRow) :=
    matches_forM (probeRow_matches hmirrors) lefts
  unfold gives emittedBy
  rcases hrows s new haligned with ⟨hsame, hafter⟩ | ⟨_, -, hnever | ⟨hnever, -⟩⟩
  · rw [hsame, hafter.emitted]
  · exact hnever.elim
  · exact hnever.elim

theorem settles_collect (hconstant : stage.right.Constant) (lefts : List Row) :
    Settles stage.AtRest (Probe.collect (lefts.forM stage.probeRow)) (stage.gives lefts #[]) := by
  intro s hs
  rw [collect_apply]
  exact ⟨emittedBy_eq_gives hconstant lefts hs, keeps_atRest hconstant lefts hs⟩

end JoinStage

theorem Projection.decided_applyAll (p : Projection) (rows : List Row) :
    Decided Session.Live (p.applyAll rows) := by
  have haccepts (row : Row) : Decided Session.Live (p.accepts row) := by
    unfold Projection.accepts
    cases p.filter with
    | none => exact ⟨_, settles_pure true⟩
    | some predicate =>
        refine Decided.bind ⟨_, settles_modify fun _ hs => hs.countEvaluation⟩ fun _ => ?_
        exact Decided.bind ⟨_, settles_lift _⟩ fun t => ⟨_, settles_pure t.isTrue⟩
  have happly (row : Row) : Decided Session.Live (p.apply row) := by
    refine (haccepts row).bind fun accepted => ?_
    cases accepted with
    | true => exact Decided.bind ⟨_, settles_lift _⟩ fun made => ⟨_, settles_pure (some made)⟩
    | false => exact ⟨_, settles_pure none⟩
  induction rows with
  | nil => exact ⟨_, settles_pure []⟩
  | cons row rest ih =>
      exact (happly row).bind fun _ => ih.bind fun _ => ⟨_, settles_pure _⟩

namespace JoinChain

variable [KeyHasher] {c : JoinChain}

/-- The query is live, and all slots are sound. -/
def AtRest (c : JoinChain) (s : ChainState) : Prop :=
  s.session.Live ∧ List.Forall₂ JoinStage.SlotSound c.stages s.sites

/-- No right relation changes. -/
def Constant (c : JoinChain) : Prop := ∀ stage ∈ c.stages, stage.right.Constant

theorem atRest_of_reached (hconstant : c.Constant) {s : ChainState} (hlive : s.session.Live)
    (hsites : List.Forall₂ JoinStage.Reached c.stages s.sites) : c.AtRest s := by
  refine ⟨hlive, ?_⟩
  obtain ⟨hlength, hzip⟩ := List.forall₂_iff_zip.mp hsites
  refine List.forall₂_iff_zip.mpr ⟨hlength, fun {stage site} member => ?_⟩
  exact (hzip member).slotSound (hconstant stage (List.of_mem_zip member).1)

theorem atRest_initial (c : JoinChain) : c.AtRest { sites := c.initialSites } := by
  refine ⟨⟨rfl, fun n h => nomatch h⟩, ?_⟩
  apply List.forall₂_map_right_iff.mpr
  exact List.forall₂_same.mpr fun _ _ _ hside => nomatch hside

theorem AtRest.release {s : ChainState} (h : c.AtRest s) : c.AtRest s.release := by
  refine ⟨h.1, ?_⟩
  apply List.forall₂_map_right_iff.mpr
  exact h.2.imp fun _ _ _ _ hside => nomatch hside

/-- What left rows come to that are at the first of some stages, which has emitted rows already. A
stage that lets nothing through ends it. -/
def passed : List JoinStage → List Row → Array Row → Except JoinError (List Row)
  | [], lefts, _ => .ok lefts
  | stage :: later, lefts, buffer => do
    match ← stage.gives lefts buffer with
    | [] => return []
    | next => passed later next #[]

/-- What rows pushed through stages come to is decided, stage by stage. -/
theorem push_settles {stages : List JoinStage} (hconstant : ∀ stage ∈ stages, stage.right.Constant)
    (rows : List Row) {sites : List Site} {session : Session} (hlive : session.Live)
    (hsites : List.Forall₂ JoinStage.SlotSound stages sites) :
    (push stages sites rows session).1 = passed stages rows #[] ∧
      (push stages sites rows session).2.2.Live ∧
      List.Forall₂ JoinStage.SlotSound stages (push stages sites rows session).2.1 := by
  induction hsites generalizing rows session with
  | nil => exact ⟨rfl, hlive, .nil⟩
  | @cons stage site stages sites hsite hsites ih =>
      have hothers : ∀ other ∈ stages, other.right.Constant :=
        fun other member => hconstant other (List.mem_cons_of_mem stage member)
      obtain ⟨hresult, hrest⟩ :=
        JoinStage.settles_collect (hconstant stage List.mem_cons_self) rows ⟨session, site⟩
          ⟨hlive, hsite⟩
      unfold push passed
      rw [← hresult]
      cases hrun : Probe.collect (rows.forM stage.probeRow) ⟨session, site⟩ with
      | mk result t =>
          rw [hrun] at hrest
          cases result with
          | error e => exact ⟨rfl, hrest.1, .cons hrest.2 hsites⟩
          | ok next =>
              cases next with
              | nil => exact ⟨rfl, hrest.1, .cons hrest.2 hsites⟩
              | cons row rows =>
                  obtain ⟨hlast, hfinal, hslots⟩ := ih hothers (row :: rows) hrest.1
                  exact ⟨hlast, hfinal, .cons hrest.2 hslots⟩

def finished (c : JoinChain) (rows : List Row) : Except JoinError (List Row) :=
  (c.finishRows rows { sites := c.initialSites }).1

theorem settles_finishRows (rows : List Row) :
    Settles c.AtRest (c.finishRows rows) (c.finished rows) := by
  unfold finished finishRows
  cases c.projection with
  | none => exact settles_pure rows
  | some p =>
      obtain ⟨outcome, happly⟩ := p.decided_applyAll rows
      have hnew : (p.applyAll rows {}).1 = outcome := (happly {} ⟨rfl, nofun⟩).1
      intro s hs
      obtain ⟨hresult, hlive⟩ := happly s.session hs.1
      exact ⟨hresult.trans hnew.symm, hlive, hs.2⟩

def rowOutcome (c : JoinChain) (row : Row) : Except JoinError (List Row) := do
  (row.expectArity c.baseArity).mapError JoinError.shape
  let rows ← passed c.stages [row] #[]
  c.finished rows

/-- On every chain at rest a row comes to its outcome. -/
theorem settles_processRow (hconstant : c.Constant) (row : Row) :
    Settles c.AtRest (c.processRow row) (c.rowOutcome row) := by
  have hcheck : Settles c.AtRest (do (← get).session.check : Run ChainState Unit) (.ok ()) :=
    fun s hs => ⟨hs.1.check, hs⟩
  have hpush : Settles c.AtRest (c.pushAll [row]) (passed c.stages [row] #[]) := by
    intro s hs
    obtain ⟨hresult, hlive, hsites⟩ := push_settles hconstant [row] hs.1 hs.2
    exact ⟨hresult, hlive, hsites⟩
  exact hcheck.bind fun _ => (settles_lift _).bind fun _ => hpush.bind settles_finishRows

theorem settles_processAll (hconstant : c.Constant) (rows : List Row) :
    Settles c.AtRest (c.processAll (rows.map Pull.ofRow)) (rows.flatMapM c.rowOutcome) := by
  induction rows with
  | nil => exact settles_pure []
  | cons row rest ih =>
      rw [List.flatMapM_cons]
      have hpull : Settles c.AtRest (pull (Pull.ofRow row)) (.ok row) := settles_pure row
      exact hpull.bind fun pulled => (settles_processRow hconstant pulled).bind fun rows =>
        ih.bind fun others => settles_pure (rows ++ others)

/-- Joining driving rows in order gives what each of them comes to. -/
theorem settles_execute (hconstant : c.Constant) (rows : List Row) :
    Settles c.AtRest (c.execute (rows.map Pull.ofRow)) (rows.flatMapM c.rowOutcome) :=
  (settles_processAll hconstant rows).releasing fun _ hs => hs.release

end JoinChain

end JoinEngine
