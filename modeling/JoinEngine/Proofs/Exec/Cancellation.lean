import JoinEngine.Proofs.Exec.ChainMeaning
import JoinEngine.Proofs.Exec.Tally

/-!
A chain that is cancelled while a driving row is pulled. The items before that row are processed
as if they were the whole input, and each of them has been probed once at the first site. The query
is looked at before anything else is done with a row, so nothing is counted for the row it is
cancelled at, and the run ends there without pulling another item. On its way out it empties every
slot. Which right relations the sites have and how far their slots are filled does not matter.
-/

namespace JoinEngine

/-- Released sites keep their counters and hold no side. -/
theorem ChainState.exists_released (s : ChainState) :
    ∃ released, s.release = ⟨s.session, released⟩ ∧
      released.map Site.counters = s.sites.map Site.counters ∧
      ∀ site ∈ released, site.build.isBuilt = false := by
  refine ⟨_, rfl, ?_, fun site member => ?_⟩
  · rw [List.map_map]
    rfl
  · obtain ⟨held, -, rfl⟩ := List.mem_map.mp member
    rfl

namespace JoinChain

/-- What driving rows do to the counters of the sites: each site stays in its place, and the first
counts a tally more that has a probe for every row. -/
structure Passed (stage : JoinStage) (before after : List Counters) (rows : Nat) : Prop where
  length : after.length = before.length
  first : ∃ bill : Tally, bill.probes = rows ∧ after.head? = before.head?.map (stage.billed · bill)

namespace Passed

variable {stage : JoinStage} {before between after : List Counters} {m n : Nat}

theorem refl (stage : JoinStage) (counters : List Counters) : Passed stage counters counters 0 where
  length := rfl
  first := by
    refine ⟨{}, rfl, ?_⟩
    simp only [JoinStage.billed_zero, Option.map_id']

theorem trans (h : Passed stage before between m) (h' : Passed stage between after n) :
    Passed stage before after (m + n) where
  length := h'.length.trans h.length
  first := by
    obtain ⟨bill, rfl, hbill⟩ := h.first
    obtain ⟨more, rfl, hmore⟩ := h'.first
    refine ⟨bill + more, rfl, ?_⟩
    rw [hmore, hbill, Option.map_map]
    simp only [JoinStage.billed_add]
    rfl

end Passed

section

variable [KeyHasher] {c : JoinChain} {s t : ChainState} {stage : JoinStage}
  {stages : List JoinStage}

/-- Input in two parts is processed part by part. -/
theorem processAll_append (c : JoinChain) (input more : List Pull) :
    c.processAll (input ++ more) = do
      let rows ← c.processAll input
      let others ← c.processAll more
      return rows ++ others := by
  induction input with
  | nil => simp only [List.nil_append, processAll, pure_bind, bind_pure]
  | cons p rest ih =>
      simp only [List.cons_append, processAll, ih, bind_assoc, pure_bind, List.append_assoc]

/-! ### The rows before -/

theorem length_push (stages : List JoinStage) (sites : List Site) (rows : List Row)
    (session : Session) : (push stages sites rows session).2.1.length = sites.length := by
  induction stages generalizing sites rows session with
  | nil => rfl
  | cons stage stages ih =>
      cases sites with
      | nil => rfl
      | cons site sites =>
          unfold push
          split
          · rfl
          · rfl
          · exact congrArg (· + 1) (ih sites _ _)

/-- A row that gets through the stages is probed once at the first. -/
theorem passed_of_push {sites others : List Site} {left : Row} {rows : List Row}
    {session final : Session}
    (h : push (stage :: stages) sites [left] session = (.ok rows, others, final)) :
    Passed stage (sites.map Site.counters) (others.map Site.counters) 1 where
  length := by
    have hlength := length_push (stage :: stages) sites [left] session
    rw [h] at hlength
    rw [List.length_map, List.length_map, hlength]
  first := by
    cases sites with
    | nil =>
        obtain ⟨-, hrest⟩ := Prod.mk.inj h
        obtain ⟨rfl, -⟩ := Prod.mk.inj hrest
        exact ⟨{ probes := 1 }, rfl, rfl⟩
    | cons site sites =>
        obtain ⟨next, u, hcollect, hgoes⟩ := push_cons_eq_ok h
        obtain ⟨v, hprobes, -, rfl⟩ := Probe.collect_eq_ok hcollect
        obtain ⟨_, w, hprobe, hlast⟩ := Run.bind_eq_ok hprobes
        obtain ⟨-, rfl⟩ := Run.pure_eq_ok hlast
        obtain ⟨emitted, rejected, extra, hprobed⟩ := JoinStage.exists_probed hprobe
        refine ⟨{ probes := 1, rowsEmitted := emitted, residualRejections := rejected } + extra,
          ?_, ?_⟩
        · rw [Tally.probes_add, hprobed.joined.uncounted.1]
        · rcases hgoes with ⟨-, -, rfl, -⟩ | ⟨after, -, rfl⟩ <;>
            exact congrArg some hprobed.counters

theorem passed_of_processRow (hstages : c.stages = stage :: stages) {left : Row}
    {out : List Row} (h : c.processRow left s = (.ok out, t)) :
    Passed stage (s.sites.map Site.counters) (t.sites.map Site.counters) 1 := by
  obtain ⟨-, -, rows, sites, session, hpush, hfinish⟩ := pushed_of_processRow h
  have hkept := c.finishRows_sites rows ⟨session, sites⟩
  rw [hfinish] at hkept
  rw [hstages] at hpush
  rw [hkept]
  exact passed_of_push hpush

omit [KeyHasher] in
theorem sites_of_pull {p : Pull} {left : Row} (h : pull p s = (.ok left, t)) :
    t.sites = s.sites := by
  obtain ⟨cancels, item⟩ := p
  cases cancels with
  | true =>
      obtain ⟨_, u, hcancel, hitem⟩ := Run.bind_eq_ok h
      obtain ⟨-, rfl⟩ := Run.lift_eq_ok hitem
      obtain ⟨-, rfl⟩ := Prod.mk.inj hcancel
      rfl
  | false =>
      obtain ⟨-, rfl⟩ := Run.lift_eq_ok h
      rfl

/-- Every item that a run gets through is probed once at the first site. -/
theorem passed_of_processAll (hstages : c.stages = stage :: stages) {input : List Pull}
    {out : List Row} (h : c.processAll input s = (.ok out, t)) :
    Passed stage (s.sites.map Site.counters) (t.sites.map Site.counters) input.length := by
  induction input generalizing s out with
  | nil =>
      obtain ⟨-, rfl⟩ := Run.pure_eq_ok h
      exact .refl stage _
  | cons p rest ih =>
      obtain ⟨left, u, hpull, h⟩ := Run.bind_eq_ok h
      obtain ⟨rows, v, hrow, h⟩ := Run.bind_eq_ok h
      obtain ⟨others, w, hothers, hlast⟩ := Run.bind_eq_ok h
      obtain ⟨-, rfl⟩ := Run.pure_eq_ok hlast
      have hfirst := passed_of_processRow hstages hrow
      rw [sites_of_pull hpull] at hfirst
      rw [List.length_cons, Nat.add_comm]
      exact hfirst.trans (ih hothers)

/-! ### The row it is cancelled at -/

/-- A row is not processed, nor is any item behind it, if the query is cancelled when it comes. -/
theorem processAll_of_cancels {p : Pull} (hcancels : p.cancels = true) {row : Row}
    (hitem : p.item = .ok row) (rest : List Pull) (s : ChainState) :
    c.processAll (p :: rest) s = (.error .cancelled, { s with session := s.session.cancel }) := by
  have hpull : pull p s = (.ok row, { s with session := s.session.cancel }) := by
    unfold pull
    rw [hcancels, hitem]
    rfl
  have hrow : c.processRow row { s with session := s.session.cancel } =
      (.error .cancelled, { s with session := s.session.cancel }) := rfl
  unfold processAll
  rw [Run.bind_apply, hpull]
  simp only
  rw [Run.bind_apply, hrow]

/-- A cancelled run stops at the row where it is cancelled and leaves nothing behind. If the items
before are processed without error and the query is cancelled while a row is pulled, then the run
fails as cancelled; the query and the counters are as the items before have left them, the first
site has counted a probe for each of these, and no site holds a side, whether it was filled before
the run or by it. -/
theorem execute_stops_when_cancelled (hstages : c.stages = stage :: stages)
    (hmetrics : stage.config.collectMetrics = true) {site : Site} {sites : List Site}
    (hsites : s.sites = site :: sites) {before : List Pull} {rows : List Row}
    (hbefore : c.processAll before s = (.ok rows, t)) {p : Pull} (hcancels : p.cancels = true)
    {row : Row} (hitem : p.item = .ok row) (rest : List Pull) :
    ∃ last others,
      c.execute (before ++ p :: rest) s =
        (.error .cancelled, ⟨t.session.cancel, last :: others⟩) ∧
      last.counters.probes = site.counters.probes + UInt64.ofNat before.length ∧
      others.length = sites.length ∧
      (last :: others).map Site.counters = t.sites.map Site.counters ∧
      ∀ slot ∈ last :: others, slot.build.isBuilt = false := by
  have hrun : c.processAll (before ++ p :: rest) s =
      (.error .cancelled, { t with session := t.session.cancel }) := by
    rw [processAll_append, Run.bind_apply, hbefore]
    simp only
    rw [Run.bind_apply, processAll_of_cancels hcancels hitem]
  obtain ⟨released, hrelease, hcounters, hempty⟩ :=
    ChainState.exists_released { t with session := t.session.cancel }
  obtain ⟨hlength, bill, hprobes, hfirst⟩ := passed_of_processAll hstages hbefore
  rw [hsites, ← hcounters] at hlength hfirst
  cases released with
  | nil => cases hlength
  | cons last others =>
      have hlast : last.counters = site.counters.plus bill := by
        simpa [JoinStage.billed, hmetrics] using hfirst
      refine ⟨last, others, ?_, ?_, ?_, hcounters, hempty⟩
      · rw [← hrelease]
        exact Run.releasingOnCancel_of_cancelled hrun
      · rw [hlast, ← hprobes]
        rfl
      · simpa using hlength

end

/-- Two sites, of which the first is filled by the run and the second has been filled before it. The
query is cancelled while the third of four rows is pulled. -/
theorem execute_stops_at_third_row :
    let first : JoinStage :=
      ⟨⟨[0], [0], none, .columnsEqual 0 1, 1, 1⟩,
        .bounded ⟨"r", 1, false, fun _ => .ok [[.int32 1], [.int32 2]]⟩, {}, .hashProbe,
        .materialized, [], 0⟩
    let second : JoinStage :=
      ⟨⟨[], [], some (.literal (.bool true)), .literal (.bool true), 2, 1⟩,
        .bounded ⟨"q", 1, false, fun _ => .ok []⟩, {}, .fullScan, .materialized, [], 1⟩
    let c : JoinChain := ⟨1, [first, second], none, 1⟩
    let before := [[.int32 1], [.int32 3]].map Pull.ofRow
    let p : Pull := ⟨true, .ok [.int32 2]⟩
    let s : ChainState := ⟨{}, [{}, { build := ⟨some (BuildSide.start 1 none 1024)⟩ }]⟩
    ∃ rows t last other, c.processAll before s = (.ok rows, t) ∧
      t.sites.map (·.build.isBuilt) = [true, true] ∧
      c.execute (before ++ p :: [Pull.ofRow [.int32 1]]) s =
        (.error .cancelled, ⟨t.session.cancel, [last, other]⟩) ∧
      last.counters.probes = 2 ∧ other.counters.probes = 1 ∧
      last.build.isBuilt = false ∧ other.build.isBuilt = false := by
  intro first second c before p s
  have hrows : (c.processAll before s).1.toOption.isSome := by decide +kernel
  have hbuilt : (c.processAll before s).2.sites.map (·.build.isBuilt) = [true, true] := by
    decide +kernel
  have hprobes : (c.processAll before s).2.sites.map (·.counters.probes) = [2, 1] := by
    decide +kernel
  cases hbefore : c.processAll before s with
  | mk result t =>
      rw [hbefore] at hrows hbuilt hprobes
      cases result with
      | error e => cases hrows
      | ok rows =>
          obtain ⟨last, others, hexecute, hlast, hlength, hcounters, hempty⟩ :=
            execute_stops_when_cancelled (c := c) rfl rfl (s := s) rfl hbefore (p := p) rfl rfl
              [Pull.ofRow [.int32 1]]
          obtain ⟨other, rfl⟩ := List.length_eq_one_iff.mp hlength
          have hsame := congrArg (List.map Counters.probes) hcounters
          rw [List.map_map, List.map_map] at hsame
          obtain ⟨-, hother⟩ := List.cons.inj (hsame.trans hprobes)
          exact ⟨rows, t, last, other, rfl, hbuilt, hexecute, hlast, List.head_eq_of_cons_eq hother,
            hempty last (by simp), hempty other (by simp)⟩

end JoinChain

end JoinEngine
