import JoinEngine.Proofs.Exec.BuiltSide
import JoinEngine.Proofs.Exec.Cancellation
import JoinEngine.Proofs.Exec.Tuning

/-!
What a cancellation does to the sides that are held. A run over a whole input empties all slots
when it is cancelled. A row that is fed by itself does not: joining it never takes a side out of a
slot, however it ends, and where it makes a side before it is cancelled, that side is held from then
on. So a driver that feeds rows one at a time goes on holding every side after its query is
cancelled, until it releases them itself.
-/

namespace JoinEngine

/-! ### One row at one site -/

namespace JoinStage

open Run

variable [KeyHasher] {stage : JoinStage} {left : Row} {s t : ProbeState}

def slotKept (holds : SharedBuild → Prop) : ProbeContract where
  inv s := holds s.site.build

omit [KeyHasher] in
theorem reads_slotKept (holds : SharedBuild → Prop) : stage.Reads left (slotKept holds) where
  counted _ _ hs := hs
  evaluated _ hs := hs
  emitted _ _ _ hs := hs
  cancelled := trivial
  untested _ _ _ _ _ _ := trivial
  called _ _ hs := hs
  expected _ _ := trivial
  unexpected _ _ _ := trivial
  narrow _ _ := trivial
  unanswered _ _ := trivial
  unaskable := trivial

/-- A side that is held is taken as it is. -/
theorem allows_side_of_held (side : BuildSide) :
    (slotKept (·.side = some side)).Allows stage.side fun found => found.Offers fun _ => True := by
  intro s hs
  rw [side_apply, hs]
  exact ⟨hs, fun _ _ => ⟨fun _ _ => trivial, fun _ _ _ => trivial⟩, nofun⟩

/-- No probe takes a side out of the slot, whether it succeeds, fails or is cancelled. -/
theorem allows_probeRow_of_held (side : BuildSide) :
    (slotKept (·.side = some side)).Allows (stage.probeRow left) :=
  allows_probeRow_of_side (reads_slotKept _) (allows_side_of_held side)

/-- A stage without a materialized side leaves its slot as it is. -/
theorem allows_probeRow_of_sideless (h : stage.Sideless) (holds : SharedBuild → Prop) :
    (slotKept holds).Allows (stage.probeRow left) := by
  have hreads : stage.Reads left (slotKept holds) := reads_slotKept holds
  apply allows_probeRow_of_joinLeft hreads
  unfold joinLeft
  rcases h with haccess | ⟨haccess, hmode, -⟩
  · cases stage.mode with
    | hashProbe => exact allows_probeKeyed hreads fun htaken => nomatch haccess.symm.trans htaken
    | fullScan => exact allows_probeAll hreads fun hrescan => absurd haccess hrescan
  · rw [hmode]
    exact allows_probeKeyed hreads fun htaken => nomatch haccess.symm.trans htaken

/-- Making a side is never cancelled. -/
theorem sideOf_ne_cancelled (rows : List Row) : stage.sideOf rows ≠ .error .cancelled := by
  unfold sideOf BuildSide.ofScan
  split
  next => nofun
  next =>
    cases hrefusal : BuildSide.refusal? rows stage.right.arity with
    | none =>
        obtain ⟨hcount, harities⟩ := BuildSide.fits_of_refusal hrefusal
        obtain ⟨side, hside, -⟩ :=
          BuildSide.ofRows_holds stage.indexColumns stage.config.capacityHint hcount harities
        rw [hside]
        nofun
    | some e =>
        rw [BuildSide.ofRows_of_refusal stage.indexColumns stage.config.capacityHint hrefusal]
        rintro ⟨⟩
        unfold BuildSide.refusal? at hrefusal
        split at hrefusal
        · cases hrefusal
        · obtain ⟨_, -, hshape⟩ := Option.map_eq_some_iff.mp hrefusal
          cases hshape

/-- A row that is cancelled on its way has passed the checks. -/
theorem checks_of_cancelled (hprobe : stage.probeRow left s = (.error .cancelled, t))
    (hcheck : s.session.check = .ok ()) : stage.Checks left s := by
  refine ⟨hcheck, ?_⟩
  by_contra hleft
  rw [probeRow_of_narrow hcheck hleft] at hprobe
  cases hprobe

/-- A row that is cancelled on its way needed the side, if the stage materializes one. -/
theorem needsSide_of_cancelled (hprobe : stage.probeRow left s = (.error .cancelled, t))
    (hcheck : s.session.check = .ok ()) (haccess : stage.access = .materialized) :
    stage.NeedsSide left := by
  refine ⟨haccess, fun hmode hkey => ?_⟩
  obtain ⟨-, -, hpasses⟩ := probeRow_of_null hmode hkey (s := s)
  have hok := hpasses (checks_of_cancelled hprobe hcheck)
  rw [hprobe] at hok
  cases hok

/-- A row that is cancelled on its way has the side made, if the stage materializes one. -/
theorem isBuilt_of_cancelled (hprobe : stage.probeRow left s = (.error .cancelled, t))
    (hcheck : s.session.check = .ok ()) (haccess : stage.access = .materialized)
    (hright : ¬ stage.right.Fails .cancelled) (hempty : s.site.build.side = none) :
    t.site.build.isBuilt = true := by
  obtain ⟨-, hmade, hfailed⟩ := probeRow_builds hcheck (checks_of_cancelled hprobe hcheck).2
    (needsSide_of_cancelled hprobe hcheck haccess) hempty
  rw [hprobe] at hmade hfailed
  cases hscan : stage.right.scan (s.session.calls.of stage.relation).scans with
  | error e =>
      rw [hscan] at hfailed
      obtain ⟨hsame, -⟩ := hfailed e rfl
      obtain rfl := Except.error.inj hsame
      exact absurd (RightRelation.fails_of_scan hscan) hright
  | ok rows =>
      rw [hscan] at hmade hfailed
      cases hside : stage.sideOf rows with
      | error e =>
          obtain ⟨hsame, -⟩ := hfailed e hside
          obtain rfl := Except.error.inj hsame
          exact absurd hside (sideOf_ne_cancelled rows)
      | ok side =>
          have hheld : t.site.build.side = some side := hmade side hside
          rw [SharedBuild.isBuilt, hheld]
          rfl

theorem held_of_probeRow (stage : JoinStage) (left : Row) {side : BuildSide}
    (hheld : s.site.build.side = some side) :
    (stage.probeRow left s).2.site.build.side = some side :=
  (allows_probeRow_of_held side s hheld).1

/-- After a cancelled row the slot holds a side if it held one before, or if the row was not
cancelled from the start and the stage materializes a side; and in no other case. -/
theorem isBuilt_of_cancelled_iff {d : JoinDescriptor} {right : RightRelation}
    {config : JoinConfig} {relation : Nat} (hcreate : create d right config relation = .ok stage)
    (hright : ¬ stage.right.Fails .cancelled)
    (hprobe : stage.probeRow left s = (.error .cancelled, t)) :
    t.site.build.isBuilt = true ↔ s.site.build.isBuilt = true ∨
      s.session.cancelled = false ∧ stage.access = .materialized := by
  constructor
  · intro hbuilt
    by_cases hcancelled : s.session.cancelled = true
    · rw [probeRow_of_stopped (Session.check_eq_error hcancelled)] at hprobe
      obtain ⟨-, rfl⟩ := Prod.mk.inj hprobe
      exact Or.inl hbuilt
    · by_cases haccess : stage.access = .materialized
      · exact Or.inr ⟨Bool.eq_false_iff.mpr hcancelled, haccess⟩
      · have hallows : (slotKept (· = s.site.build)).Allows (stage.probeRow left) :=
          allows_probeRow_of_sideless (sideless_of_create hcreate haccess) _
        have hsame := (hallows s rfl).1
        rw [hprobe] at hsame
        have hslot : t.site.build = s.site.build := hsame
        rw [hslot] at hbuilt
        exact Or.inl hbuilt
  · intro hheld
    cases hslot : s.site.build.side with
    | some side =>
        have hkept := held_of_probeRow stage left hslot
        rw [hprobe] at hkept
        rw [SharedBuild.isBuilt, hkept]
        rfl
    | none =>
        rw [SharedBuild.isBuilt, hslot] at hheld
        obtain ⟨hlive, haccess⟩ := hheld.resolve_left nofun
        exact isBuilt_of_cancelled hprobe (Session.check_eq_ok hlive) haccess hright hslot

end JoinStage

/-! ### Rows fed to a chain -/

def HoldsAt (sites : List Site) (position : Nat) (side : BuildSide) : Prop :=
  ∃ site, sites[position]? = some site ∧ site.build.side = some side

namespace JoinChain

open Run

section

variable [KeyHasher] {c : JoinChain} {s t : ChainState} {position : Nat} {side : BuildSide}

/-- The states that a driver can bring a chain to that feeds it rows one at a time, goes on after
a failure and never releases. What the query shares may change between rows in any way. -/
inductive Fed (c : JoinChain) (s : ChainState) : ChainState → Prop where
  | start : Fed c s s
  | row (left : Row) {t : ChainState} : Fed c s t → Fed c s (c.processRow left t).2
  | elsewhere (session : Session) {t : ChainState} : Fed c s t → Fed c s { t with session }

theorem held_of_collect {stage : JoinStage} {rows : List Row} {s : StageState}
    (hheld : s.site.build.side = some side) :
    (Probe.collect (rows.forM stage.probeRow) s).2.site.build.side = some side := by
  have hrows : (JoinStage.slotKept (·.side = some side)).Allows (rows.forM stage.probeRow) :=
    ProbeContract.allows_forM fun _ _ => JoinStage.allows_probeRow_of_held side
  have hcollect : Ends (fun s : StageState => s.site.build.side = some side) (fun _ => True)
      (Probe.collect (rows.forM stage.probeRow)) fun _ => True :=
    hrows.collect (fun _ hs => hs) fun _ hs => ⟨hs, trivial⟩
  exact (hcollect s hheld).1

/-- The first site is left by its own probes, the others are as they were or as rows pushed through
them have left them. -/
theorem sites_push_cons (stage : JoinStage) (stages : List JoinStage) (site : Site)
    (sites : List Site) (rows : List Row) (session : Session) :
    ∃ others, (push (stage :: stages) (site :: sites) rows session).2.1 =
        (Probe.collect (rows.forM stage.probeRow) ⟨session, site⟩).2.site :: others ∧
      (others = sites ∨ ∃ next after, others = (push stages sites next after).2.1) := by
  rw [push]
  cases Probe.collect (rows.forM stage.probeRow) ⟨session, site⟩ with
  | mk result u =>
      cases result with
      | error e => exact ⟨sites, rfl, Or.inl rfl⟩
      | ok next =>
          cases next with
          | nil => exact ⟨sites, rfl, Or.inl rfl⟩
          | cons row rest => exact ⟨_, rfl, Or.inr ⟨row :: rest, u.session, rfl⟩⟩

/-- Pushing rows through stages takes no side out of a slot. -/
theorem holdsAt_push {stages : List JoinStage} {sites : List Site} {rows : List Row}
    {session : Session} (hheld : HoldsAt sites position side) :
    HoldsAt (push stages sites rows session).2.1 position side := by
  induction stages generalizing sites rows session position with
  | nil => exact hheld
  | cons stage stages ih =>
      cases sites with
      | nil => exact hheld
      | cons site sites =>
          obtain ⟨others, hsites, hothers⟩ :=
            sites_push_cons stage stages site sites rows session
          obtain ⟨own, hown, hslot⟩ := hheld
          rw [hsites]
          cases position with
          | zero =>
              obtain rfl := Option.some.inj hown
              exact ⟨_, rfl, held_of_collect hslot⟩
          | succ position =>
              have hrest : HoldsAt sites position side := ⟨own, hown, hslot⟩
              rcases hothers with rfl | ⟨next, after, rfl⟩
              · exact hrest
              · exact ih hrest

/-- Processing a row takes no side out of a slot, whether it succeeds, fails or is cancelled. -/
theorem holdsAt_processRow (left : Row) (hheld : HoldsAt s.sites position side) :
    HoldsAt (c.processRow left s).2.sites position side := by
  let inv (s : ChainState) : Prop := HoldsAt s.sites position side
  have hpush (rows : List Row) : Ends inv (fun _ => True) (c.pushAll rows) fun _ => True :=
    fun s hs => ⟨holdsAt_push hs, fun _ _ => trivial, fun _ _ => trivial⟩
  have hfinish (rows : List Row) : Ends inv (fun _ => True) (c.finishRows rows) fun _ => True := by
    intro s hs
    refine ⟨?_, fun _ _ => trivial, fun _ _ => trivial⟩
    change HoldsAt (c.finishRows rows s).2.sites position side
    rw [c.finishRows_sites rows s]
    exact hs
  have hcheck {α : Type} (outcome : Except JoinError α) :
      Ends inv (fun _ => True) (liftM outcome : Run ChainState α) fun _ => True :=
    ends_lift (fun _ _ => trivial) fun _ _ => trivial
  have hrow : Ends inv (fun _ => True) (c.processRow left) fun _ => True :=
    ends_get fun s _ => (hcheck s.session.check).bind fun _ _ =>
      (hcheck _).bind fun _ _ => (hpush [left]).bind fun rows _ => hfinish rows
  exact (hrow s hheld).1

theorem Fed.holdsAt (h : c.Fed s t) (hheld : HoldsAt s.sites position side) :
    HoldsAt t.sites position side := by
  induction h with
  | start => exact hheld
  | row left _ ih => exact holdsAt_processRow left ih
  | elsewhere _ _ ih => exact ih

omit [KeyHasher] in
/-- No site holds a side after a release. -/
theorem released_of_cancelled {run : Run ChainState (List Row)}
    (h : releasingOnCancel ChainState.release run s = (.error .cancelled, t)) :
    ∀ site ∈ t.sites, site.build.isBuilt = false := by
  cases hrun : run s with
  | mk result u =>
      by_cases hcancelled : result = .error .cancelled
      · subst hcancelled
        obtain ⟨released, hreleased, -, hempty⟩ := u.exists_released
        rw [releasingOnCancel_of_cancelled hrun, hreleased] at h
        obtain ⟨-, rfl⟩ := Prod.mk.inj h
        exact hempty
      · rw [releasingOnCancel_of_ne hrun hcancelled] at h
        exact absurd (Prod.mk.inj h).1 hcancelled

/-- A row that is fed by itself releases nothing when it is cancelled. At a site, a side that was
held is held after the row, and over a relation that does not itself answer that it was cancelled
the slot is filled afterwards exactly if it was filled before or if the row was not cancelled from
the start and the stage materializes a side. So whatever rows a driver feeds to a chain one at a
time, before the query is cancelled and after, no side is ever given back. The runs over a whole
input, in one piece or in partitions, leave no slot filled when they end as cancelled. -/
theorem cancelled_rows_hold_sides (hcreated : ∀ stage ∈ c.stages, ∃ d right config relation,
      JoinStage.create d right config relation = .ok stage) :
    (∀ stage ∈ c.stages, ∀ left (s t : ProbeState),
      stage.probeRow left s = (.error .cancelled, t) →
        (∀ side, s.site.build.side = some side → t.site.build.side = some side) ∧
        (¬ stage.right.Fails .cancelled →
          (t.site.build.isBuilt = true ↔ s.site.build.isBuilt = true ∨
            s.session.cancelled = false ∧ stage.access = .materialized))) ∧
    (∀ s t, c.Fed s t → ∀ position side,
      HoldsAt s.sites position side → HoldsAt t.sites position side) ∧
    (∀ input s t, c.execute input s = (.error .cancelled, t) →
      ∀ site ∈ t.sites, site.build.isBuilt = false) ∧
    ∀ partitions s t, c.executePartitioned partitions s = (.error .cancelled, t) →
      ∀ site ∈ t.sites, site.build.isBuilt = false := by
  refine ⟨fun stage member left s t hprobe => ⟨fun side hside => ?_, fun hright => ?_⟩, ?_, ?_, ?_⟩
  · have hkept := stage.held_of_probeRow left hside
    rwa [hprobe] at hkept
  · obtain ⟨d, right, config, relation, hcreate⟩ := hcreated stage member
    exact JoinStage.isBuilt_of_cancelled_iff hcreate hright hprobe
  · exact fun s t hfed position side hheld => hfed.holdsAt hheld
  · exact fun input s t hrun => released_of_cancelled hrun
  · exact fun partitions s t hrun => released_of_cancelled hrun

end

/-- The query is cancelled while the first row is compared at the second site. Both sides have been
made by then, and both are held after every row fed from then on; a run gives them back. -/
theorem cancelled_scan_holds_sides :
    let first : JoinStage :=
      ⟨⟨[0], [0], none, .columnsEqual 0 1, 1, 1⟩,
        .bounded ⟨"r", 1, false, fun _ => .ok [[.int32 1], [.int32 2]]⟩, {}, .hashProbe,
        .materialized, [], 0⟩
    let second : JoinStage :=
      ⟨⟨[], [], some (.literal (.bool false)), .literal (.bool false), 2, 1⟩,
        .bounded ⟨"q", 1, false, fun _ => .ok (List.replicate 1024 [.int32 3])⟩, {}, .fullScan,
        .materialized, [], 1⟩
    let c : JoinChain := ⟨1, [first, second], none, 1⟩
    let s : ChainState := ⟨{ cancelAt := some 1 }, c.initialSites⟩
    let t := (c.processRow [.int32 1] s).2
    (c.processRow [.int32 1] s).1 = .error .cancelled ∧
      (∀ u, c.Fed t u → ∀ position < 2, ∃ side, HoldsAt u.sites position side) ∧
      (∃ u, c.execute [Pull.ofRow [.int32 1]] t = (.error .cancelled, u) ∧
        ∀ site ∈ u.sites, site.build.isBuilt = false) ∧
      ∃ u, second.probeRow [.int32 1, .int32 1] ⟨{ cancelAt := some 1 }, {}, #[]⟩ =
        (.error .cancelled, u) ∧ u.site.build.isBuilt = true := by
  intro first second c s t
  have hcreated : ∀ stage ∈ c.stages, ∃ d right config relation,
      JoinStage.create d right config relation = .ok stage := by
    rintro _ (_ | ⟨_, _ | ⟨_, member⟩⟩)
    · exact ⟨first.descriptor, first.right, {}, 0, rfl⟩
    · exact ⟨second.descriptor, second.right, {}, 1, rfl⟩
    · cases member
  obtain ⟨hresult, hbuilt⟩ : (c.processRow [.int32 1] s).1 = .error .cancelled ∧
      t.sites.map (·.build.isBuilt) = [true, true] := by
    decide +kernel
  have hslots : ∀ position < 2, ∃ side, HoldsAt t.sites position side := by
    intro position hposition
    have hslot : (t.sites[position]?).map (·.build.isBuilt) = some true := by
      rw [← List.getElem?_map, hbuilt]
      obtain rfl | rfl : position = 0 ∨ position = 1 := by omega
      · rfl
      · rfl
    obtain ⟨site, hsite, hfilled⟩ := Option.map_eq_some_iff.mp hslot
    obtain ⟨side, hside⟩ := Option.isSome_iff_exists.mp hfilled
    exact ⟨side, site, hsite, hside⟩
  have hright : ¬ second.right.Fails .cancelled := by
    rintro ⟨_, _, ⟨_, _, _, hscan⟩ | ⟨_, _, _, hsource, -⟩⟩
    · cases hscan
    · cases hsource
  let start : ProbeState := ⟨{ cancelAt := some 1 }, {}, #[]⟩
  have hrun : (c.execute [Pull.ofRow [.int32 1]] t).1 = .error .cancelled := by decide +kernel
  have hscan : (second.probeRow [.int32 1, .int32 1] start).1 = .error .cancelled := by
    decide +kernel
  obtain ⟨hprobes, hfed, hruns, -⟩ := cancelled_rows_hold_sides hcreated
  refine ⟨hresult, fun u hu position hposition => ?_, ?_, ?_⟩
  · obtain ⟨side, hside⟩ := hslots position hposition
    exact ⟨side, hfed t u hu position side hside⟩
  · cases hends : c.execute [Pull.ofRow [.int32 1]] t with
    | mk result u =>
        rw [hends] at hrun
        obtain rfl : result = .error .cancelled := hrun
        exact ⟨u, rfl, hruns _ t u hends⟩
  · cases hprobe : second.probeRow [.int32 1, .int32 1] start with
    | mk result u =>
        rw [hprobe] at hscan
        obtain rfl : result = .error .cancelled := hscan
        obtain ⟨-, hfilled⟩ := hprobes second (by simp [c]) _ _ _ hprobe
        exact ⟨u, rfl, (hfilled hright).mpr (Or.inr ⟨rfl, rfl⟩)⟩

/-- The side that the first row has made is held after the second row has found the query
cancelled, at the site as in the chain. -/
theorem cancelled_row_leaves_side :
    let stage : JoinStage :=
      ⟨⟨[0], [0], none, .columnsEqual 0 1, 1, 1⟩,
        .bounded ⟨"r", 1, false, fun _ => .ok [[.int32 1]]⟩, {}, .hashProbe, .materialized, [], 0⟩
    let c : JoinChain := ⟨1, [stage], none, 1⟩
    let s := (c.processRow [.int32 1] ⟨{}, c.initialSites⟩).2
    let t := c.processRow [.int32 1] { s with session := s.session.cancel }
    let p := (stage.probeRow [.int32 1] ⟨{}, {}, #[]⟩).2
    let q := stage.probeRow [.int32 1] { p with session := p.session.cancel }
    JoinStage.create stage.descriptor stage.right {} 0 = .ok stage ∧ create 1 [stage] = .ok c ∧
      t.1 = .error .cancelled ∧ t.2.sites.map (·.build.isBuilt) = [true] ∧
      q.1 = .error .cancelled ∧ q.2.site.build.isBuilt = true := by
  intro stage c s t p q
  refine ⟨rfl, rfl, ?_, ?_, ?_, ?_⟩ <;> decide +kernel

end JoinChain

end JoinEngine
