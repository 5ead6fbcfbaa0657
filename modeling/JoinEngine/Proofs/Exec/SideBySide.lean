import JoinEngine.Proofs.Exec.JoinedRows

/-!
Two stages side by side. One asks a relation that may fail in some calls, the other asks a
relation with the same answers that never does, and they may have come to different sites by
different histories. As long as each slot holds nothing but the side that the answers make, the
two come to the same outcome for every left row, with the same rows, unless a call of the first
fails; the failure is then its outcome. `probeRow_matches` is the statement, and the relation
between the two states that it keeps is `Aligned`.
-/

namespace JoinEngine

namespace Run

variable {σ τ α β : Type}

/-- From related states the steps and their mirror come to the same outcome and to related
states, or the steps fail with an error that counts as trouble in the state they end in. -/
def Matches (rel : σ → τ → Prop) (trouble : JoinError → σ → Prop) (steps : Run σ α)
    (mirror : Run τ α) : Prop :=
  ∀ s t, rel s t →
    ((steps s).1 = (mirror t).1 ∧ rel (steps s).2 (mirror t).2) ∨
      ∃ e, (steps s).1 = .error e ∧ trouble e (steps s).2

variable {rel : σ → τ → Prop} {trouble : JoinError → σ → Prop}

theorem matches_lift (outcome : Except JoinError α) :
    Matches rel trouble (liftM outcome) (liftM outcome) :=
  fun _ _ hrel => Or.inl ⟨rfl, hrel⟩

theorem matches_throw (e : JoinError) : Matches rel trouble (throw e : Run σ α) (throw e) :=
  fun _ _ hrel => Or.inl ⟨rfl, hrel⟩

theorem matches_pure (a : α) : Matches rel trouble (pure a) (pure a) :=
  fun _ _ hrel => Or.inl ⟨rfl, hrel⟩

theorem matches_modify {change : σ → σ} {other : τ → τ}
    (h : ∀ s t, rel s t → rel (change s) (other t)) :
    Matches rel trouble (modify change) (modify other) :=
  fun s t hrel => Or.inl ⟨rfl, h s t hrel⟩

theorem matches_get {next : σ → Run σ β} {mirror : τ → Run τ β}
    (h : ∀ s t, rel s t → Matches rel trouble (next s) (mirror t)) :
    Matches rel trouble ((get : Run σ σ) >>= next) ((get : Run τ τ) >>= mirror) :=
  fun s t hrel => h s t hrel s t hrel

theorem Matches.bind {first : Run σ α} {mirror : Run τ α} {next : α → Run σ β}
    {mirrorNext : α → Run τ β} (hfirst : Matches rel trouble first mirror)
    (hnext : ∀ a, Matches rel trouble (next a) (mirrorNext a)) :
    Matches rel trouble (first >>= next) (mirror >>= mirrorNext) := by
  intro s t hrel
  rw [bind_apply, bind_apply]
  have hstep := hfirst s t hrel
  cases hrun : first s with
  | mk result u =>
      cases hmirror : mirror t with
      | mk answer v =>
          simp only [hrun, hmirror] at hstep
          rcases hstep with ⟨rfl, hafter⟩ | ⟨e, rfl, htrouble⟩
          · cases result with
            | error e => exact Or.inl ⟨rfl, hafter⟩
            | ok a => exact hnext a u v hafter
          · exact Or.inr ⟨e, rfl, htrouble⟩

theorem matches_forM {ι : Type} {steps : ι → Run σ Unit} {mirror : ι → Run τ Unit}
    (h : ∀ i, Matches rel trouble (steps i) (mirror i)) (items : List ι) :
    Matches rel trouble (items.forM steps) (items.forM mirror) := by
  induction items with
  | nil => exact matches_pure ()
  | cons i rest ih => exact (h i).bind fun _ => ih

/-- Cleaning up after a cancellation on both sides. -/
theorem Matches.releasing {steps : Run σ α} {mirror : Run τ α} {release : σ → σ}
    {other : τ → τ} (h : Matches rel trouble steps mirror)
    (hrel : ∀ s t, rel s t → rel (release s) (other t))
    (htrouble : ∀ e s, trouble e s → trouble e (release s)) :
    Matches rel trouble (releasingOnCancel release steps) (releasingOnCancel other mirror) := by
  intro s t hst
  have hstep := h s t hst
  cases hrun : steps s with
  | mk result u =>
      cases hmirror : mirror t with
      | mk answer v =>
          simp only [hrun, hmirror] at hstep
          by_cases hcancelled : result = .error .cancelled
          · subst hcancelled
            rw [releasingOnCancel_of_cancelled hrun]
            rcases hstep with ⟨rfl, hafter⟩ | ⟨e, he, hfailed⟩
            · rw [releasingOnCancel_of_cancelled hmirror]
              exact Or.inl ⟨rfl, hrel u v hafter⟩
            · exact Or.inr ⟨e, he, htrouble e u hfailed⟩
          · rw [releasingOnCancel_of_ne hrun hcancelled]
            rcases hstep with ⟨rfl, hafter⟩ | hfailed
            · rw [releasingOnCancel_of_ne hmirror hcancelled]
              exact Or.inl ⟨rfl, hafter⟩
            · exact Or.inr hfailed

end Run

/-- The first count of calls is no later than the second. -/
structure Calls.UpTo (before after : Calls) : Prop where
  scans : before.scans ≤ after.scans
  lookups : before.lookups ≤ after.lookups

theorem Calls.upTo_refl (c : Calls) : c.UpTo c := ⟨Nat.le_refl _, Nat.le_refl _⟩

theorem Calls.UpTo.trans {a b c : Calls} (h : a.UpTo b) (h' : b.UpTo c) : a.UpTo c :=
  ⟨Nat.le_trans h.scans h'.scans, Nat.le_trans h.lookups h'.lookups⟩

theorem CallLog.of_modify (log : CallLog) (relation : Nat) (change : Calls → Calls) :
    (log.modify relation change).of relation = change (log.of relation) := by
  induction relation generalizing log with
  | zero => cases log <;> rfl
  | succ n ih =>
      cases log with
      | nil => simpa [CallLog.modify, CallLog.of] using ih []
      | cons calls rest => simpa [CallLog.modify, CallLog.of] using ih rest

theorem RightRelation.FailsBetween.widen {right : RightRelation} {before after first last : Calls}
    {e : JoinError} (h : right.FailsBetween before after e) (hfirst : first.UpTo before)
    (hlast : after.UpTo last) : right.FailsBetween first last e := by
  rcases h with ⟨n, hbefore, hafter, hscan⟩ | ⟨source, n, key, hsource, hbefore, hafter, hlookup⟩
  · exact Or.inl ⟨n, Nat.le_trans hfirst.scans hbefore,
      Nat.lt_of_lt_of_le hafter hlast.scans, hscan⟩
  · exact Or.inr ⟨source, n, key, hsource, Nat.le_trans hfirst.lookups hbefore,
      Nat.lt_of_lt_of_le hafter hlast.lookups, hlookup⟩

namespace Session

/-- The sessions differ at most in the calls that were made. -/
structure SameToken (a b : Session) : Prop where
  cancelled : a.cancelled = b.cancelled
  evaluations : a.evaluations = b.evaluations
  cancelAt : a.cancelAt = b.cancelAt

theorem sameToken_refl (a : Session) : a.SameToken a := ⟨rfl, rfl, rfl⟩

theorem SameToken.trans {a b c : Session} (h : a.SameToken b) (h' : b.SameToken c) :
    a.SameToken c :=
  ⟨h.cancelled.trans h'.cancelled, h.evaluations.trans h'.evaluations, h.cancelAt.trans h'.cancelAt⟩

theorem SameToken.symm {a b : Session} (h : a.SameToken b) : b.SameToken a :=
  ⟨h.cancelled.symm, h.evaluations.symm, h.cancelAt.symm⟩

theorem SameToken.live {a b : Session} (h : a.SameToken b) (hlive : a.Live) : b.Live := by
  unfold Live at hlive ⊢
  rwa [← h.cancelled, ← h.evaluations, ← h.cancelAt]

/-- No step can tell the two sessions apart: both are live, both are cancelled, or they have the
same token. -/
inductive Alike (a b : Session) : Prop where
  | live : a.Live → b.Live → Alike a b
  | cancelled : a.cancelled = true → b.cancelled = true → Alike a b
  | same : a.SameToken b → Alike a b

theorem Alike.check {a b : Session} (h : a.Alike b) : a.check = b.check := by
  cases h with
  | live ha hb => rw [ha.check, hb.check]
  | cancelled ha hb => simp only [Session.check, ha, hb]
  | same h => simp only [Session.check, h.cancelled]

theorem Alike.cancel {a b : Session} (_ : a.Alike b) : a.cancel.Alike b.cancel :=
  .cancelled rfl rfl

theorem Alike.countEvaluation {a b : Session} (h : a.Alike b) :
    a.countEvaluation.Alike b.countEvaluation := by
  cases h with
  | live ha hb => exact .live ha.countEvaluation hb.countEvaluation
  | cancelled ha hb =>
      refine .cancelled ?_ ?_
      · simp only [Session.countEvaluation, ha, Bool.true_or]
      · simp only [Session.countEvaluation, hb, Bool.true_or]
  | same h =>
      refine .same ⟨?_, ?_, h.cancelAt⟩
      · simp only [Session.countEvaluation, h.cancelled, h.evaluations, h.cancelAt]
      · simp only [Session.countEvaluation, h.evaluations]

theorem Alike.trade {a b c d : Session} (h : a.Alike b) (ha : a.SameToken c)
    (hb : b.SameToken d) : c.Alike d := by
  cases h with
  | live hlive hother => exact .live (ha.live hlive) (hb.live hother)
  | cancelled hcancelled hother =>
      exact .cancelled (ha.cancelled ▸ hcancelled) (hb.cancelled ▸ hother)
  | same h => exact .same (ha.symm.trans (h.trans hb))

end Session

/-- How the tokens of two sessions side by side go together: no step tells the sessions apart,
but that a look at its token may stop the first. -/
structure Tokens where
  alike : Session → Session → Prop
  stops : JoinError → Prop
  check : ∀ a b, alike a b → a.check = b.check ∨ ∃ e, stops e ∧ a.check = .error e
  cancel : ∀ a b, alike a b → alike a.cancel b.cancel
  counted : ∀ a b, alike a b → alike a.countEvaluation b.countEvaluation
  traded : ∀ a b c d, alike a b → a.SameToken c → b.SameToken d → alike c d

namespace Tokens

def shared : Tokens where
  alike := Session.Alike
  stops _ := False
  check _ _ h := Or.inl h.check
  cancel _ _ h := h.cancel
  counted _ _ h := h.countEvaluation
  traded _ _ _ _ h := h.trade

def freed : Tokens where
  alike a b := a.cancelled = true ∨ b.Live
  stops e := e = .cancelled
  check a b h := by
    cases hcancelled : a.cancelled with
    | true => exact Or.inr ⟨.cancelled, rfl, by rw [Session.check, hcancelled]; rfl⟩
    | false =>
        have hlive := h.resolve_left (by rw [hcancelled]; nofun)
        left
        rw [hlive.check, Session.check, hcancelled]
        rfl
  cancel _ _ _ := Or.inl rfl
  counted a b h := by
    refine h.imp (fun hcancelled => ?_) Session.Live.countEvaluation
    rw [Session.countEvaluation, hcancelled, Bool.true_or]
  traded _ _ _ _ h hfirst hsecond := h.imp (hfirst.cancelled ▸ ·) hsecond.live

end Tokens

def StageState.probing (s : StageState) : ProbeState := ⟨s.session, s.site, #[]⟩

namespace JoinStage

variable [KeyHasher]

/-- A side in the slot is the one that the answer to a scan makes. -/
def SlotFrom (stage : JoinStage) (scanned : Except JoinError (List Row)) (site : Site) : Prop :=
  ∀ side, site.build.side = some side → (scanned >>= stage.sideOf) = .ok side

/-- What steps leave that only ask the right relation and count: nothing is changed but the calls
made, the counters and the slot, which holds the right side. -/
structure Unseen (stage : JoinStage) (scanned : Except JoinError (List Row))
    (s t : ProbeState) : Prop where
  session : s.session.SameToken t.session
  emitted : s.emitted = t.emitted
  slot : stage.SlotFrom scanned t.site
  calls : (s.session.calls.of stage.relation).UpTo (t.session.calls.of stage.relation)

/-- The steps leave what is unseen, and come to the outcome unless a call that they make fails
with a fault. -/
def Asks {α : Type} (stage : JoinStage) (scanned : Except JoinError (List Row))
    (fault : JoinError → Prop) (steps : Probe α) (outcome : Except JoinError α) : Prop :=
  ∀ s, stage.SlotFrom scanned s.site →
    stage.Unseen scanned s (steps s).2 ∧
      ((steps s).1 = outcome ∨ ∃ e, fault e ∧ (steps s).1 = .error e ∧
        stage.right.FailsBetween (s.session.calls.of stage.relation)
          ((steps s).2.session.calls.of stage.relation) e)

section

variable {stage : JoinStage} {scanned : Except JoinError (List Row)}
  {found : List Value → Except JoinError (List Row)} {fault : JoinError → Prop}

theorem unseen_refl {s : ProbeState} (h : stage.SlotFrom scanned s.site) :
    stage.Unseen scanned s s :=
  ⟨Session.sameToken_refl _, rfl, h, Calls.upTo_refl _⟩

theorem Unseen.trans {s t u : ProbeState} (h : stage.Unseen scanned s t)
    (h' : stage.Unseen scanned t u) : stage.Unseen scanned s u :=
  ⟨h.session.trans h'.session, h.emitted.trans h'.emitted, h'.slot, h.calls.trans h'.calls⟩

theorem asks_lift {α : Type} (outcome : Except JoinError α) :
    stage.Asks scanned fault (liftM outcome) outcome :=
  fun _ hslot => ⟨unseen_refl hslot, Or.inl rfl⟩

theorem Asks.bind {α β : Type} {first : Probe α} {next : α → Probe β}
    {outcome : Except JoinError α} {rest : α → Except JoinError β}
    (hfirst : stage.Asks scanned fault first outcome)
    (hnext : ∀ a, outcome = .ok a → stage.Asks scanned fault (next a) (rest a)) :
    stage.Asks scanned fault (first >>= next) (outcome >>= rest) := by
  intro s hslot
  rw [Run.bind_apply]
  obtain ⟨hunseen, houtcome⟩ := hfirst s hslot
  cases hrun : first s with
  | mk result t =>
      simp only [hrun] at hunseen houtcome
      -- a fault ends the steps where it happens, in the first part or in what follows
      rcases houtcome with rfl | ⟨e, hfault, rfl, hfails⟩
      · cases result with
        | error e => exact ⟨hunseen, Or.inl rfl⟩
        | ok a =>
            obtain ⟨hafter, hlast⟩ := hnext a rfl t hunseen.slot
            refine ⟨hunseen.trans hafter, ?_⟩
            rcases hlast with hok | ⟨e, hfault, herror, hfails⟩
            · exact Or.inl hok
            · exact Or.inr ⟨e, hfault, herror, hfails.widen hunseen.calls (Calls.upTo_refl _)⟩
      · exact ⟨hunseen, Or.inr ⟨e, hfault, rfl, hfails⟩⟩

/-- After steps that come to a value, only what follows decides. -/
theorem Asks.followed {α β : Type} {first : Probe α} {next : α → Probe β} {a : α}
    {outcome : Except JoinError β} (hfirst : stage.Asks scanned fault first (.ok a))
    (hnext : stage.Asks scanned fault (next a) outcome) :
    stage.Asks scanned fault (first >>= next) outcome := by
  have hboth : stage.Asks scanned fault (first >>= next) (Except.ok a >>= fun _ => outcome) := by
    apply hfirst.bind
    intro b hb
    obtain rfl := Except.ok.inj hb
    exact hnext
  exact hboth

/-- Reading the value that the steps come to. -/
theorem Asks.reading {α β : Type} {steps : Probe α} {outcome : Except JoinError α}
    (h : stage.Asks scanned fault steps outcome) (read : α → β) :
    stage.Asks scanned fault (do return read (← steps)) (outcome.map read) := by
  have hread := h.bind fun a (_ : outcome = .ok a) => asks_lift (.ok (read a))
  cases outcome <;> exact hread

theorem asks_count (change : Counters → Counters) :
    stage.Asks scanned fault (stage.count change) (.ok ()) := by
  intro s hslot
  refine ⟨?_, Or.inl rfl⟩
  unfold count
  cases stage.config.collectMetrics with
  | true => exact ⟨Session.sameToken_refl _, rfl, hslot, Calls.upTo_refl _⟩
  | false => exact unseen_refl hslot

/-- A step that notes a call and then gives the answer to it. -/
theorem asks_answer {α : Type} {s : ProbeState} {answer outcome : Except JoinError α}
    {change : Calls → Calls} (hslot : stage.SlotFrom scanned s.site)
    (hcalls : (s.session.calls.of stage.relation).UpTo
      (change (s.session.calls.of stage.relation)))
    (hanswer : answer = outcome ∨ ∃ e, fault e ∧ answer = .error e ∧
      stage.right.FailsBetween (s.session.calls.of stage.relation)
        (change (s.session.calls.of stage.relation)) e) :
    let t := { s with session := { s.session with
      calls := s.session.calls.modify stage.relation change } }
    stage.Unseen scanned s t ∧ (answer = outcome ∨ ∃ e, fault e ∧ answer = .error e ∧
      stage.right.FailsBetween (s.session.calls.of stage.relation)
        (t.session.calls.of stage.relation) e) := by
  have hafter := CallLog.of_modify s.session.calls stage.relation change
  simp only [hafter]
  refine ⟨⟨⟨rfl, rfl, rfl⟩, rfl, hslot, ?_⟩, hanswer⟩
  rw [hafter]
  exact hcalls

theorem asks_scanRight (hanswers : stage.right.Answers scanned found fault) :
    stage.Asks scanned fault stage.scanRight scanned := by
  apply (asks_count Counters.scan).followed
  intro s hslot
  refine asks_answer hslot ⟨Nat.le_succ _, Nat.le_refl _⟩ ?_
  refine (hanswers.scan _).imp id fun ⟨e, hfault, herror⟩ => ⟨e, hfault, herror, Or.inl ?_⟩
  exact ⟨_, Nat.le_refl _, Nat.lt_succ_self _, herror⟩

theorem asks_lookUp (hanswers : stage.right.Answers scanned found fault) {source : KeyedSource}
    (hsource : stage.right = .partitioned source) (key : List Value) :
    stage.Asks scanned fault (stage.lookUp source key) (found key) := by
  apply (asks_count Counters.lookup).followed
  intro s hslot
  refine asks_answer hslot ⟨Nat.le_refl _, Nat.le_succ _⟩ ?_
  refine (hanswers.lookup source hsource _ key).imp id fun ⟨e, hfault, herror⟩ =>
    ⟨e, hfault, herror, Or.inr ?_⟩
  exact ⟨source, _, key, hsource, Nat.le_refl _, Nat.lt_succ_self _, herror⟩

theorem asks_makeSide (hanswers : stage.right.Answers scanned found fault) :
    stage.Asks scanned fault stage.makeSide (scanned >>= stage.sideOf) := by
  refine (asks_scanRight hanswers).bind fun rows _ => ?_
  have hside : stage.sideOf rows = (stage.sideOf rows >>= fun side => .ok side) := by
    cases stage.sideOf rows <;> rfl
  rw [hside]
  refine (asks_lift (stage.sideOf rows)).bind fun side _ => ?_
  exact (asks_count (Counters.build side.size)).followed (asks_lift (.ok side))

/-- The side a stage gets is the one that the answer to a scan makes, whether the slot held it
or not. -/
theorem asks_side (hanswers : stage.right.Answers scanned found fault) :
    stage.Asks scanned fault stage.side (scanned >>= stage.sideOf) := by
  intro s hslot
  rw [side_apply]
  cases hheld : s.site.build.side with
  | some side => exact ⟨unseen_refl hslot, Or.inl (hslot side hheld).symm⟩
  | none =>
      obtain ⟨⟨hsession, hemitted, -, hcalls⟩, hmade⟩ := asks_makeSide hanswers s hslot
      cases hrun : stage.makeSide s with
      | mk result t =>
          simp only [hrun] at hsession hemitted hcalls hmade
          cases result with
          | error e =>
              exact ⟨⟨hsession, hemitted, fun side hside => (nomatch hside), hcalls⟩, hmade⟩
          | ok side =>
              have hside : (scanned >>= stage.sideOf) = .ok side := by
                rcases hmade with hok | ⟨e, -, herror, -⟩
                · exact hok.symm
                · cases herror
              refine ⟨⟨hsession, hemitted, fun other hother => ?_, hcalls⟩, Or.inl hside.symm⟩
              obtain rfl := Option.some.inj hother
              exact hside

end

/-- What can be read of two sides to be is the same: the rows in order and the rows to try for
each hash, or why there is no side. -/
structure SidesAlike (made other : Except JoinError BuildSide) : Prop where
  rows : (made.map fun side => side.arena.rows) = other.map fun side => side.arena.rows
  candidates : ∀ hash, (made.map fun side => (side.candidates hash).map side.arena.row) =
    other.map fun side => (side.candidates hash).map side.arena.row

omit [KeyHasher] in
theorem sidesAlike_refl (made : Except JoinError BuildSide) : SidesAlike made made :=
  ⟨rfl, fun _ => rfl⟩

/-- No row is joined with a materialized side. -/
def Sideless (stage : JoinStage) : Prop :=
  stage.access = .rescan ∨
    stage.access = .lookup ∧ stage.mode = .hashProbe ∧
      ∃ source, stage.right = .partitioned source

omit [KeyHasher] in
theorem not_sideless_of_materialized {stage : JoinStage} (h : stage.access = .materialized) :
    ¬ stage.Sideless := by
  rintro (hrescan | ⟨hlookup, -⟩)
  · rw [h] at hrescan
    cases hrescan
  · rw [h] at hlookup
    cases hlookup

/-- Two stages for the same join. The first may fail in some calls of its relation, the second
has the same answers and never does. -/
structure Mirrors (stage mirror : JoinStage) (scanned : Except JoinError (List Row))
    (found : List Value → Except JoinError (List Row)) (fault : JoinError → Prop) : Prop where
  descriptor : mirror.descriptor = stage.descriptor
  mode : mirror.mode = stage.mode
  access : mirror.access = stage.access
  lookupColumns : mirror.lookupColumns = stage.lookupColumns
  kind : mirror.right.kind = stage.right.kind
  name : mirror.right.name = stage.right.name
  side : stage.Sideless ∨ SidesAlike (scanned >>= stage.sideOf) (scanned >>= mirror.sideOf)
  answers : stage.right.Answers scanned found fault
  reliable : mirror.right.Answers scanned found fun _ => False

/-- What the states of two stages side by side have in common. The first stage's calls are
counted from `base` on. -/
structure Aligned (stage mirror : JoinStage) (tokens : Tokens)
    (scanned : Except JoinError (List Row)) (base : Calls) (s t : ProbeState) : Prop where
  session : tokens.alike s.session t.session
  emitted : s.emitted = t.emitted
  slot : stage.SlotFrom scanned s.site
  mirrorSlot : mirror.SlotFrom scanned t.site
  since : base.UpTo (s.session.calls.of stage.relation)

def Trouble (stage : JoinStage) (tokens : Tokens) (fault : JoinError → Prop) (base : Calls)
    (e : JoinError) (s : ProbeState) : Prop :=
  tokens.stops e ∨
    fault e ∧ stage.right.FailsBetween base (s.session.calls.of stage.relation) e

abbrev Alongside {α : Type} (stage mirror : JoinStage) (tokens : Tokens)
    (scanned : Except JoinError (List Row)) (fault : JoinError → Prop) (base : Calls)
    (steps others : Probe α) : Prop :=
  Run.Matches (stage.Aligned mirror tokens scanned base) (stage.Trouble tokens fault base) steps
    others

section

variable {stage mirror : JoinStage} {tokens : Tokens} {scanned : Except JoinError (List Row)}
  {found : List Value → Except JoinError (List Row)} {fault : JoinError → Prop} {base : Calls}

theorem Aligned.unseen {s t u v : ProbeState} (h : stage.Aligned mirror tokens scanned base s t)
    (hs : stage.Unseen scanned s u) (ht : mirror.Unseen scanned t v) :
    stage.Aligned mirror tokens scanned base u v where
  session := tokens.traded _ _ _ _ h.session hs.session ht.session
  emitted := hs.emitted.symm.trans (h.emitted.trans ht.emitted)
  slot := hs.slot
  mirrorSlot := ht.slot
  since := h.since.trans hs.calls

/-- Steps that only ask come to the same, as they ask for the same. -/
theorem Asks.matches {α : Type} {steps others : Probe α} {outcome : Except JoinError α}
    (hsteps : stage.Asks scanned fault steps outcome)
    (hothers : mirror.Asks scanned (fun _ => False) others outcome) :
    stage.Alongside mirror tokens scanned fault base steps others := by
  intro s t hst
  obtain ⟨hunseen, houtcome⟩ := hsteps s hst.slot
  obtain ⟨hmirror, hreliable⟩ := hothers t hst.mirrorSlot
  rcases houtcome with hok | ⟨e, hfault, herror, hfails⟩
  · rcases hreliable with hsame | ⟨e, hnever, -⟩
    · exact Or.inl ⟨hok.trans hsame.symm, hst.unseen hunseen hmirror⟩
    · exact hnever.elim
  · exact Or.inr ⟨e, herror, Or.inr ⟨hfault, hfails.widen hst.since (Calls.upTo_refl _)⟩⟩

open Run

theorem matches_count (change : Counters → Counters) :
    stage.Alongside mirror tokens scanned fault base (stage.count change) (mirror.count change) :=
  (asks_count change).matches (asks_count change)

theorem matches_check :
    stage.Alongside mirror tokens scanned fault base Probe.check Probe.check := by
  intro s t hst
  rcases tokens.check _ _ hst.session with hsame | ⟨e, hstops, hstopped⟩
  · exact Or.inl ⟨hsame, hst⟩
  · exact Or.inr ⟨e, hstopped, Or.inl hstops⟩

theorem matches_checkAt (position : Nat) :
    stage.Alongside mirror tokens scanned fault base (checkAt position) (checkAt position) := by
  unfold checkAt
  split
  · exact matches_check
  · exact matches_pure ()

theorem matches_emit (row : Row) :
    stage.Alongside mirror tokens scanned fault base (Probe.emit row) (Probe.emit row) := by
  apply matches_modify
  intro s t hst
  exact { hst with emitted := congrArg (·.push row) hst.emitted }

theorem matches_emitIf (predicate : Option Expr) (left right : Row) :
    stage.Alongside mirror tokens scanned fault base
      (stage.emitIf predicate left right) (mirror.emitIf predicate left right) := by
  cases predicate with
  | none => exact matches_emit _
  | some p =>
      have htest : stage.Alongside mirror tokens scanned fault base
          (Probe.holds p (left ++ right)) (Probe.holds p (left ++ right)) := by
        refine Matches.bind (matches_modify fun s t hst => ?_) fun _ => matches_lift _
        exact { hst with session := tokens.counted _ _ hst.session }
      refine htest.bind fun t => ?_
      cases t.isTrue with
      | true => exact matches_emit _
      | false => exact matches_count _

variable (h : stage.Mirrors mirror scanned found fault)

include h

theorem matches_emitIfEqual (left right : Row) :
    stage.Alongside mirror tokens scanned fault base
      (stage.emitIfEqual left right) (mirror.emitIfEqual left right) := by
  have hkeys : mirror.keysMatch left right = stage.keysMatch left right := by
    unfold keysMatch
    rw [h.descriptor]
  unfold emitIfEqual
  rw [hkeys, h.descriptor]
  cases stage.keysMatch left right with
  | true => exact matches_emitIf _ left right
  | false => exact matches_pure ()

theorem matches_expectRight (right : Row) :
    stage.Alongside mirror tokens scanned fault base
      (liftM (stage.expectRight right)) (liftM (mirror.expectRight right)) := by
  unfold expectRight
  rw [h.descriptor]
  exact matches_lift _

theorem matches_rescan :
    stage.Alongside mirror tokens scanned fault base stage.rescan mirror.rescan := by
  have hscan : stage.Alongside mirror tokens scanned fault base stage.scanRight mirror.scanRight :=
    (asks_scanRight h.answers).matches (asks_scanRight h.reliable)
  refine hscan.bind fun rows => ?_
  exact (matches_forM (matches_expectRight h) rows).bind fun _ => matches_pure rows

theorem matches_lookUp {source other : KeyedSource} (hright : stage.right = .partitioned source)
    (hother : mirror.right = .partitioned other) (key : List Value) :
    stage.Alongside mirror tokens scanned fault base
      (stage.lookUp source key) (mirror.lookUp other key) :=
  (asks_lookUp h.answers hright key).matches (asks_lookUp h.reliable hother key)

/-- What is read alike of the two sides leads on to the same. -/
theorem matches_reading {α β : Type} {read : BuildSide → α}
    (hread : (scanned >>= stage.sideOf).map read = (scanned >>= mirror.sideOf).map read)
    {next others : α → Probe β}
    (hnext : ∀ a, stage.Alongside mirror tokens scanned fault base (next a) (others a)) :
    stage.Alongside mirror tokens scanned fault base (do next (read (← stage.side)))
      (do others (read (← mirror.side))) := by
  have hasks := (asks_side h.answers).reading read
  have hmirror := (asks_side h.reliable).reading read
  rw [← hread] at hmirror
  have hreads : stage.Alongside mirror tokens scanned fault base (do return read (← stage.side))
      (do return read (← mirror.side)) := hasks.matches hmirror
  have hboth := hreads.bind hnext
  simpa only [bind_assoc, pure_bind] using hboth

theorem matches_probeKeyed (left : Row) :
    stage.Alongside mirror tokens scanned fault base
      (stage.probeKeyed left) (mirror.probeKeyed left) := by
  have hsides : stage.Alongside mirror tokens scanned fault base
      (do let rows ← stage.rescan; rows.forM (stage.emitIfEqual left))
      (do let rows ← mirror.rescan; rows.forM (mirror.emitIfEqual left)) :=
    (matches_rescan h).bind fun rows => matches_forM (matches_emitIfEqual h left) rows
  have hprobes (key : List Value) (htaken : ¬ stage.Sideless) :
      stage.Alongside mirror tokens scanned fault base (do
          let side ← stage.side
          ((side.candidates (hashKey key)).map side.arena.row).forM (stage.emitIfEqual left))
        (do
          let side ← mirror.side
          ((side.candidates (hashKey key)).map side.arena.row).forM (mirror.emitIfEqual left)) :=
    matches_reading h ((h.side.resolve_left htaken).candidates (hashKey key)) fun rows =>
      matches_forM (matches_emitIfEqual h left) rows
  have hkinds := h.kind
  unfold probeKeyed
  rw [h.descriptor, h.access, h.lookupColumns]
  cases stage.descriptor.leftKey left with
  | none => exact matches_count _
  | some key =>
      cases haccess : stage.access with
      | rescan => exact hsides
      | materialized => exact hprobes key (not_sideless_of_materialized haccess)
      | lookup =>
          -- the two relations are of one kind, so both stages look up or neither can
          have hnames := h.name
          cases hright : stage.right with
          | bounded source | rescan source =>
              rw [hright] at hkinds hnames
              cases hother : mirror.right with
              | partitioned other => rw [hother] at hkinds; cases hkinds
              | bounded other | rescan other =>
                  rw [hother] at hnames
                  simp only [hnames]
                  exact matches_throw _
          | partitioned source =>
              rw [hright] at hkinds
              cases hother : mirror.right with
              | bounded other | rescan other => rw [hother] at hkinds; cases hkinds
              | partitioned other =>
                  refine matches_check.bind fun _ => ?_
                  refine (matches_lookUp h hright hother _).bind fun rows => ?_
                  refine matches_forM (fun right => ?_) rows
                  exact (matches_expectRight h right).bind fun _ => matches_emitIfEqual h left right

theorem matches_allRight (hmode : stage.mode = .fullScan) :
    stage.Alongside mirror tokens scanned fault base stage.allRight mirror.allRight := by
  have hrows (htaken : ¬ stage.Sideless) :
      stage.Alongside mirror tokens scanned fault base (do return (← stage.side).arena.rows)
        (do return (← mirror.side).arena.rows) :=
    matches_reading h (h.side.resolve_left htaken).rows matches_pure
  unfold allRight
  rw [h.access]
  cases haccess : stage.access with
  | rescan => exact matches_rescan h
  | materialized => exact hrows (not_sideless_of_materialized haccess)
  | lookup =>
      apply hrows
      rintro (hrescan | ⟨-, hprobe, -⟩)
      · rw [haccess] at hrescan
        cases hrescan
      · rw [hmode] at hprobe
        cases hprobe

theorem matches_probeAll (hmode : stage.mode = .fullScan) (left : Row) :
    stage.Alongside mirror tokens scanned fault base (stage.probeAll left)
      (mirror.probeAll left) := by
  rw [probeAll_eq, probeAll_eq, h.descriptor]
  refine (matches_allRight h hmode).bind fun rows => matches_forM (fun entry => ?_) rows.zipIdx
  exact (matches_checkAt entry.2).bind fun _ => matches_emitIf _ left entry.1

/-- Side by side, the two stages come to the same for every left row, unless a call of the first
fails. -/
theorem probeRow_matches (left : Row) :
    stage.Alongside mirror tokens scanned fault base (stage.probeRow left)
      (mirror.probeRow left) := by
  rw [probeRow_eq, probeRow_eq, h.descriptor]
  refine matches_check.bind fun _ => (matches_lift _).bind fun _ => ?_
  refine (matches_count Counters.probe).bind fun _ => matches_get fun s t hst => ?_
  have hjoin : stage.Alongside mirror tokens scanned fault base
      (stage.joinLeft left) (mirror.joinLeft left) := by
    unfold joinLeft
    rw [h.mode]
    cases hmode : stage.mode with
    | hashProbe => exact matches_probeKeyed h left
    | fullScan => exact matches_probeAll h hmode left
  refine hjoin.bind fun _ => matches_get fun u v huv => ?_
  rw [hst.emitted, huv.emitted]
  split
  · exact matches_count _
  · exact matches_pure ()

omit h in
theorem matches_pull (p : Pull) :
    stage.Alongside mirror tokens scanned fault base (Probe.pull p) (Probe.pull p) := by
  unfold Probe.pull
  split
  · refine Matches.bind (matches_modify fun s t hst => ?_) fun _ => matches_lift _
    exact { hst with session := tokens.cancel _ _ hst.session }
  · exact matches_lift _

omit h in
/-- Collecting what the two stages emit. Between two inputs the stages are aligned as at the
start of one. -/
theorem Alongside.collect {steps others : Probe Unit}
    (hsteps : stage.Alongside mirror tokens scanned fault base steps others) :
    Matches (fun s t => stage.Aligned mirror tokens scanned base s.probing t.probing)
      (fun e s => stage.Trouble tokens fault base e s.probing)
      (Probe.collect steps) (Probe.collect others) := by
  intro s t hst
  have hstep := hsteps s.probing t.probing hst
  unfold Probe.collect
  cases hrun : steps s.probing with
  | mk result u =>
      cases hmirror : others t.probing with
      | mk answer v =>
          simp only [hrun, hmirror] at hstep
          simp only [StageState.probing] at hrun hmirror
          simp only [hrun, hmirror]
          rcases hstep with ⟨rfl, hafter⟩ | ⟨e, rfl, htrouble⟩
          · refine Or.inl ?_
            have hlevel : stage.Aligned mirror tokens scanned base ⟨u.session, u.site, #[]⟩
                ⟨v.session, v.site, #[]⟩ := { hafter with emitted := rfl }
            cases result with
            | error e => exact ⟨rfl, hlevel⟩
            | ok _ =>
                have hrows : (Except.ok u.emitted.toList : Except JoinError (List Row)) =
                    .ok v.emitted.toList := by rw [hafter.emitted]
                exact ⟨hrows, hlevel⟩
          · exact Or.inr ⟨e, rfl, htrouble⟩

/-- Side by side, the two stages come to the same for every input, however it ends, unless a
call of the first fails. -/
theorem execute_matches (input : List Pull) :
    Matches (fun s t => stage.Aligned mirror tokens scanned base s.probing t.probing)
      (fun e s => stage.Trouble tokens fault base e s.probing)
      (stage.execute input) (mirror.execute input) := by
  have hrows : stage.Alongside mirror tokens scanned fault base
      (input.forM fun p => do let left ← Probe.pull p; stage.probeRow left)
      (input.forM fun p => do let left ← Probe.pull p; mirror.probeRow left) :=
    matches_forM (fun p => (matches_pull p).bind (probeRow_matches h)) input
  refine hrows.collect.releasing (fun s t hst => ?_) fun e s htrouble => htrouble
  exact { hst with slot := fun side hside => (nomatch hside),
                   mirrorSlot := fun side hside => nomatch hside }

end

end JoinStage

end JoinEngine
