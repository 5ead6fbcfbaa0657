import Mathlib.Data.List.ProdSigma
import JoinEngine.Proofs.Exec.NestedLoop
import JoinEngine.Proofs.Exec.Tally

/-!
The counters of a stage add up. Over a relation in memory the cost of a probe is known in advance,
but for how the pairs it tests divide into emitted and rejected ones: the pairs are as many as there
are right rows with equal keys, or all right rows, however the right rows are fetched. So the sum of
the costs of any number of successful calls obeys the laws that the counters are read by. `Balanced`
states the laws, one probe keeps them, and so does every sequence of calls.
-/

namespace JoinEngine

namespace JoinDescriptor

def hasNullKey (d : JoinDescriptor) (left : Row) : Bool :=
  d.leftKeys.any fun column => (left.getD column .null).isNull

/-- How often a left and a right row come together on which every pair of columns is equal. -/
def equalPairs (d : JoinDescriptor) (lefts rows : List Row) : Nat :=
  (lefts.product rows).countP fun (left, right) => (d.pairTruths left right).all Ternary.isTrue

end JoinDescriptor

namespace JoinStage

/-- The laws of the counters, after the left rows have been joined to the right rows. -/
structure Balanced (stage : JoinStage) (rows lefts : List Row) (tally : Tally) : Prop where
  probes : tally.probes = lefts.length
  skips : tally.nullKeySkips = lefts.countP stage.passesOver
  pairs : tally.rowsEmitted + tally.residualRejections =
    (lefts.product rows).countP fun (left, right) => stage.pairs left right
  lookups : stage.access = .lookup → tally.lookups + tally.nullKeySkips = tally.probes
  unasked : stage.access ≠ .lookup → tally.lookups = 0
  rescans : stage.access = .rescan →
    tally.scans + tally.nullKeySkips = tally.probes ∧ tally.builds = 0
  materialized : stage.access = .materialized →
    tally.scans = tally.builds ∧ tally.buildRows = tally.builds * rows.length ∧
      tally.builds = if tally.nullKeySkips < tally.probes then 1 else 0

theorem balanced_nil (stage : JoinStage) (rows : List Row) : stage.Balanced rows [] {} where
  probes := rfl
  skips := rfl
  pairs := rfl
  lookups _ := rfl
  unasked _ := rfl
  rescans _ := ⟨rfl, rfl⟩
  materialized _ := ⟨rfl, (Nat.zero_mul _).symm, rfl⟩

theorem Balanced.skips_le {stage : JoinStage} {rows lefts : List Row} {tally : Tally}
    (h : stage.Balanced rows lefts tally) : tally.nullKeySkips ≤ tally.probes := by
  rw [h.skips, h.probes]
  exact List.countP_le_length

structure Due (stage : JoinStage) (rows : List Row) (left : Row) (built : Bool) (bill : Tally) :
    Prop where
  probes : bill.probes = 1
  skips : bill.nullKeySkips = if stage.passesOver left then 1 else 0
  pairs : bill.rowsEmitted + bill.residualRejections = rows.countP (stage.pairs left)
  lookups : stage.access = .lookup → bill.lookups + bill.nullKeySkips = 1
  unasked : stage.access ≠ .lookup → bill.lookups = 0
  rescans : stage.access = .rescan → bill.scans + bill.nullKeySkips = 1 ∧ bill.builds = 0
  materialized : stage.access = .materialized →
    bill.scans = bill.builds ∧ bill.buildRows = bill.builds * rows.length ∧
      bill.builds = if stage.passesOver left || built then 0 else 1

section

variable {stage : JoinStage} {rows lefts : List Row} {left : Row} {built : Bool}
  {tally bill : Tally}

/-- One more left row meets every right row once. -/
theorem countP_product_snoc (test : Row → Row → Bool) (lefts rows : List Row) (left : Row) :
    ((lefts ++ [left]).product rows).countP (fun (left, right) => test left right) =
      (lefts.product rows).countP (fun (left, right) => test left right) +
        rows.countP (test left) := by
  have hproduct : (lefts ++ [left]).product rows = lefts.product rows ++ rows.map (left, ·) := by
    simp only [List.product, List.flatMap_append, List.flatMap_singleton]
  rw [hproduct, List.countP_append, List.countP_map]
  rfl

/-- A side is built by the first probe that passes over no row. -/
theorem Balanced.builds_add (h : stage.Balanced rows lefts tally)
    (hdue : stage.Due rows left built bill) (haccess : stage.access = .materialized)
    (hbuilt : tally.builds = if built then 1 else 0) :
    tally.builds + bill.builds =
      if tally.nullKeySkips + bill.nullKeySkips < tally.probes + bill.probes then 1 else 0 := by
  obtain ⟨-, -, hbuilds⟩ := h.materialized haccess
  obtain ⟨-, -, hmade⟩ := hdue.materialized haccess
  have hprobe := hdue.probes
  have hskip := hdue.skips
  have hle := h.skips_le
  cases hpassed : stage.passesOver left with
  | true =>
      rw [hpassed] at hskip hmade
      simp only [Bool.true_or, if_true] at hskip hmade
      rw [hmade, hbuilds]
      split_ifs <;> omega
  | false =>
      rw [hpassed] at hskip hmade
      simp only [Bool.false_or, Bool.false_eq_true, if_false] at hskip hmade
      have hkeyed : tally.nullKeySkips + bill.nullKeySkips < tally.probes + bill.probes := by
        omega
      rw [if_pos hkeyed, hmade, hbuilt]
      cases built <;> rfl

/-- One more probe keeps the laws. -/
theorem Balanced.snoc (h : stage.Balanced rows lefts tally)
    (hbuilt : stage.access = .materialized → tally.builds = if built then 1 else 0)
    (hdue : stage.Due rows left built bill) :
    stage.Balanced rows (lefts ++ [left]) (tally + bill) := by
  have hprobe := hdue.probes
  constructor
  case probes => simp [h.probes, hprobe]
  case skips => simp [h.skips, hdue.skips, List.countP_cons]
  case pairs =>
    have hbefore := h.pairs
    have hnow := hdue.pairs
    rw [countP_product_snoc stage.pairs, Tally.rowsEmitted_add, Tally.residualRejections_add]
    omega
  case lookups =>
    intro haccess
    have hbefore := h.lookups haccess
    have hnow := hdue.lookups haccess
    simp only [Tally.lookups_add, Tally.probes_add, Tally.nullKeySkips_add]
    omega
  case unasked =>
    intro haccess
    rw [Tally.lookups_add, h.unasked haccess, hdue.unasked haccess]
  case rescans =>
    intro haccess
    obtain ⟨hscans, hbuilds⟩ := h.rescans haccess
    obtain ⟨hscanned, hnone⟩ := hdue.rescans haccess
    simp only [Tally.scans_add, Tally.builds_add, Tally.probes_add, Tally.nullKeySkips_add]
    omega
  case materialized =>
    intro haccess
    obtain ⟨hscans, hrows, -⟩ := h.materialized haccess
    obtain ⟨hscanned, hstored, -⟩ := hdue.materialized haccess
    refine ⟨?_, ?_, h.builds_add hdue haccess (hbuilt haccess)⟩
    · rw [Tally.scans_add, Tally.builds_add, hscans, hscanned]
    · rw [Tally.buildRows_add, Tally.builds_add, hrows, hstored, Nat.add_mul]

end

section

variable [KeyHasher] {stage : JoinStage} {rows : List Row} {left : Row} {side : BuildSide}

/-- A side that is made of rows of one arity holds them, and they are not too many. -/
theorem holds_of_sideOf (harities : ∀ row ∈ rows, row.length = stage.right.arity)
    (h : stage.sideOf rows = .ok side) :
    side.Holds stage.indexColumns rows ∧ rows.length ≤ maxIndexedRows := by
  by_cases hlimit : rows.length ≤ BuildSide.rowLimit stage.config
  · obtain ⟨made, hmade, hholds⟩ := sideOf_holds harities hlimit
    rw [hmade] at h
    obtain rfl := Except.ok.inj h
    exact ⟨hholds, Nat.le_trans hlimit (BuildSide.rowLimit_le _)⟩
  · rw [sideOf_error (Nat.lt_of_not_le hlimit)] at h
    cases h

omit [KeyHasher] in
theorem Made.materialized (hmade : stage.Made) (htaken : ¬ stage.Sideless) :
    stage.access = .materialized := by
  cases haccess : stage.access with
  | materialized => rfl
  | rescan => exact absurd (Or.inl haccess) htaken
  | lookup =>
      obtain ⟨source, hright, hmode, -⟩ := hmade.lookup_source haccess
      exact absurd (Or.inr ⟨haccess, hmode, source, hright⟩) htaken

omit [KeyHasher] in
theorem passesOver_eq_hasNullKey (hmade : stage.Made) (hmode : stage.mode = .hashProbe)
    (hleft : left.length = stage.descriptor.leftArity) :
    stage.passesOver left = stage.descriptor.hasNullKey left := by
  have hbound : ∀ column ∈ stage.descriptor.leftKeys, column < left.length := by
    rw [hleft]
    exact JoinDescriptor.leftKeys_lt hmade.classified
  simp only [passesOver, hmode]
  cases hnull : stage.descriptor.hasNullKey left with
  | true =>
      obtain ⟨column, hcolumn, hvalue⟩ := List.any_eq_true.mp hnull
      have hlt := hbound column hcolumn
      rw [List.getD_eq_getElem?_getD, List.getElem?_eq_getElem hlt, Option.getD_some,
        Value.isNull_iff] at hvalue
      have hkey : stage.descriptor.leftKey left = none := by
        apply Row.key_eq_none hcolumn
        rw [List.getElem?_eq_getElem hlt, hvalue]
      rw [hkey]
      rfl
  | false =>
      have hkey : stage.descriptor.leftKey left =
          some (stage.descriptor.leftKeys.map fun column => left.getD column .null) := by
        apply Row.key_eq_some hbound
        rw [List.any_map]
        exact hnull
      rw [hkey]
      rfl

variable {found : List Value → Except JoinError (List Row)}

section

variable (hmade : stage.Made) (hsteady : stage.right.Steady rows found)
  (hleft : left.length = stage.descriptor.leftArity)

include hmade hsteady hleft

/-- Among the rows that are drawn from the side are all that are to be tested. -/
theorem countP_drawn (hkept : stage.passesOver left = false)
    (hside : stage.sideOf rows = .ok side) :
    (stage.drawn left side).countP (stage.pairs left) = rows.countP (stage.pairs left) := by
  obtain ⟨hholds, hcount⟩ := holds_of_sideOf hsteady.arities hside
  unfold indexColumns at hholds
  unfold passesOver at hkept
  cases hmode : stage.mode with
  | fullScan =>
      have hdrawn : stage.drawn left side = rows := by
        simp only [drawn, hmode]
        exact hholds.arena.rows
      rw [hdrawn]
  | hashProbe =>
      simp only [hmode] at hholds hkept
      obtain ⟨key, hkey⟩ := Option.isSome_iff_exists.mp (Option.isNone_eq_false_iff.mp hkept)
      have hdrawn : stage.drawn left side = (side.candidates (hashKey key)).map side.arena.row := by
        simp only [drawn, hmode, hkey]
      rw [hdrawn, hholds.candidates hcount, List.countP_reverse, List.countP_filter]
      apply List.countP_congr
      intro right member
      rw [Bool.and_eq_true, and_iff_left_iff_imp]
      simp only [pairs, hmode]
      intro hmatch
      have hwidth := (hsteady.arities right member).trans hmade.arity
      obtain ⟨leftKey, rightKey, hleftKey, hrightKey, hhash⟩ :=
        keys_of_keysMatch hmade hleft hwidth hmatch
      rw [hkey] at hleftKey
      obtain rfl := Option.some.inj hleftKey
      rw [JoinDescriptor.rightKey] at hrightKey
      simp [hrightKey, hhash]

/-- However the right rows are fetched, as many pairs are tested as there are in the relation. -/
theorem Fetches.countP_eq (hfinds : stage.right.Finds rows found)
    (hkept : stage.passesOver left = false) {before after : SharedBuild} {fetched : List Row}
    {bill : Tally} (hslot : ∀ side, before.side = some side → stage.sideOf rows = .ok side)
    (h : stage.Fetches left before after fetched bill) :
    fetched.countP (stage.pairs left) = rows.countP (stage.pairs left) := by
  cases h with
  | @found source n _ haccess hright hrows =>
      obtain ⟨other, hother, hmode, hcovering⟩ := hmade.lookup_source haccess
      rw [hright] at hother
      obtain rfl := RightRelation.partitioned.inj hother
      obtain ⟨listed, hperm, hfind⟩ := hfinds source hright
      have hlength : (stage.sought left).length = source.keyColumns.length := by
        rw [sought, List.length_map, coveringKey_length hcovering]
      rw [hsteady.lookup source hright, hfind _ hlength] at hrows
      obtain rfl := Except.ok.inj hrows
      rw [List.countP_filter, ← hperm.countP_eq]
      apply List.countP_congr
      intro right _
      rw [Bool.and_eq_true, and_iff_left_iff_imp]
      simp only [pairs, hmode]
      exact coveringKey_covers hcovering
  | rescanned _ hrows =>
      rw [hsteady.agrees _ _ hrows]
  | held _ hside => exact countP_drawn hmade hsteady hleft hkept (hslot _ hside)
  | built _ _ hrows hside =>
      rw [hsteady.agrees _ _ hrows] at hside
      exact countP_drawn hmade hsteady hleft hkept hside

end

/-- The slot holds no side but the one that the rows make, before fetching and after. -/
theorem Fetches.slot (hsteady : stage.right.Steady rows found) {before after : SharedBuild}
    {fetched : List Row} {bill : Tally}
    (hslot : ∀ side, before.side = some side → stage.sideOf rows = .ok side)
    (h : stage.Fetches left before after fetched bill) :
    ∀ side, after.side = some side → stage.sideOf rows = .ok side := by
  cases h with
  | found | rescanned | held => exact hslot
  | built _ _ hrows hside =>
      rw [hsteady.agrees _ _ hrows] at hside
      intro other hother
      obtain rfl := Option.some.inj hother
      exact hside

section

variable (hmade : stage.Made) (hsteady : stage.right.Steady rows found)
  (hfinds : stage.right.Finds rows found) (hleft : left.length = stage.descriptor.leftArity)

include hmade hsteady hleft

omit [KeyHasher] hsteady in
/-- A left row that is passed over matches nothing. -/
theorem countP_of_passesOver (hpassed : stage.passesOver left = true) :
    rows.countP (stage.pairs left) = 0 := by
  apply List.countP_eq_zero.mpr
  intro right _ hpair
  unfold passesOver at hpassed
  unfold pairs at hpair
  cases hmode : stage.mode with
  | fullScan =>
      rw [hmode] at hpassed
      cases hpassed
  | hashProbe =>
      simp only [hmode] at hpassed hpair
      rw [leftKey_of_keysMatch hmade hleft hpair] at hpassed
      cases hpassed

include hfinds

/-- What a successful probe costs is what is due. -/
theorem Joined.due {before after : SharedBuild} {emitted rejected : Nat} {extra : Tally}
    (hslot : ∀ side, before.side = some side → stage.sideOf rows = .ok side)
    (h : stage.Joined left before after (emitted + rejected) extra) :
    stage.Due rows left before.isBuilt
      ({ probes := 1, rowsEmitted := emitted, residualRejections := rejected } + extra) := by
  cases hpassed : stage.passesOver left with
  | true =>
      obtain ⟨-, hnone, rfl⟩ := h.passed hpassed
      have hunmatched : rows.countP (stage.pairs left) = 0 :=
        countP_of_passesOver hmade hleft hpassed
      constructor
      case pairs => exact hnone.trans hunmatched.symm
      all_goals simp [hpassed]
  | false =>
      obtain ⟨fetched, hways, htested⟩ := h.fetched hpassed
      have hpairs := hways.countP_eq hmade hsteady hleft hfinds hpassed hslot
      cases hways with
      | found haccess | rescanned haccess =>
          constructor
          case pairs => exact htested.trans hpairs
          all_goals simp [haccess, hpassed]
      | held htaken hside =>
          have hbuilt : before.isBuilt = true := by
            rw [SharedBuild.isBuilt, hside]
            rfl
          constructor
          case pairs => exact htested.trans hpairs
          all_goals simp [hmade.materialized htaken, hpassed, hbuilt]
      | @built n scanned side htaken hempty hrows hside =>
          have hbuilt : before.isBuilt = false := by
            rw [SharedBuild.isBuilt, hempty]
            rfl
          have hsize : side.size = rows.length := by
            rw [hsteady.agrees _ _ hrows] at hside
            exact (holds_of_sideOf hsteady.arities hside).1.arena.size
          constructor
          case pairs => exact htested.trans hpairs
          all_goals simp [hmade.materialized htaken, hpassed, hbuilt, hsize]

omit hmade hsteady hfinds hleft in
/-- A stage with a materialized side has built it, unless no row needed it. -/
theorem Joined.isBuilt {before after : SharedBuild} {tested : Nat} {extra : Tally}
    (haccess : stage.access = .materialized) (h : stage.Joined left before after tested extra) :
    after.isBuilt = (before.isBuilt || !stage.passesOver left) := by
  cases hpassed : stage.passesOver left with
  | true =>
      rw [(h.passed hpassed).1, Bool.not_true, Bool.or_false]
  | false =>
      rw [Bool.not_false, Bool.or_true]
      obtain ⟨fetched, hways, -⟩ := h.fetched hpassed
      cases hways with
      | found hother | rescanned hother =>
          rw [haccess] at hother
          cases hother
      | held _ hside =>
          rw [SharedBuild.isBuilt, hside]
          rfl
      | built => rfl

end

/-- The account of a site: its counters show a balanced tally, and a side is in the slot once one
was built. -/
structure Accounts (stage : JoinStage) (rows lefts : List Row) (tally : Tally) (site : Site) : Prop
    extends stage.Balanced rows lefts tally where
  widths : ∀ left ∈ lefts, left.length = stage.descriptor.leftArity
  counters : site.counters = stage.billed {} tally
  slot : stage.SlotHolds rows site
  built : stage.access = .materialized → tally.builds = if site.build.isBuilt then 1 else 0

theorem accounts_fresh : stage.Accounts rows [] {} {} where
  toBalanced := balanced_nil stage rows
  widths := by simp
  counters := (billed_zero _).symm
  slot := slotHolds_of_empty rfl
  built _ := rfl

/-- Between the two sites the left rows were joined, and some rows were emitted. -/
def Advances (stage : JoinStage) (rows : List Row) (before after : Site) (lefts : List Row)
    (emitted : Nat) : Prop :=
  ∀ earlier tally, stage.Accounts rows earlier tally before →
    ∃ next, stage.Accounts rows (earlier ++ lefts) next after ∧
      next.rowsEmitted = tally.rowsEmitted + emitted

theorem advances_nil (site : Site) : stage.Advances rows site site [] 0 := by
  intro earlier tally h
  rw [List.append_nil]
  exact ⟨tally, h, rfl⟩

theorem Advances.trans {a b c : Site} {lefts others : List Row} {m n : Nat}
    (h : stage.Advances rows a b lefts m) (h' : stage.Advances rows b c others n) :
    stage.Advances rows a c (lefts ++ others) (m + n) := by
  intro earlier tally haccounts
  obtain ⟨next, hnext, hemitted⟩ := h earlier tally haccounts
  obtain ⟨last, hlast, hmore⟩ := h' (earlier ++ lefts) next hnext
  rw [List.append_assoc] at hlast
  exact ⟨last, hlast, by omega⟩

/-! ### Runs -/

open Run

section

variable (hmade : stage.Made) (hsteady : stage.right.Steady rows found)
  (hfinds : stage.right.Finds rows found)

include hmade hsteady hfinds

omit hmade hsteady hfinds [KeyHasher] in
theorem pull_eq_ok {p : Pull} {s t : ProbeState} (h : Probe.pull p s = (.ok left, t)) :
    p.item = .ok left ∧ t.site = s.site ∧ t.emitted = s.emitted := by
  unfold Probe.pull at h
  cases hcancels : p.cancels with
  | false =>
      rw [hcancels] at h
      obtain ⟨hitem, rfl⟩ := lift_eq_ok h
      exact ⟨hitem, rfl, rfl⟩
  | true =>
      rw [hcancels] at h
      obtain ⟨_, u, hcancelled, hlast⟩ := bind_eq_ok h
      obtain ⟨-, rfl⟩ := Prod.mk.inj hcancelled
      obtain ⟨hitem, rfl⟩ := lift_eq_ok hlast
      exact ⟨hitem, rfl, rfl⟩

/-- A successful probe advances the account by its left row. -/
theorem advances_probeRow {s t : ProbeState} (h : stage.probeRow left s = (.ok (), t)) :
    ∃ emitted, t.emitted.size = s.emitted.size + emitted ∧
      stage.Advances rows s.site t.site [left] emitted := by
  obtain ⟨emitted, rejected, extra, hprobed⟩ := exists_probed h
  refine ⟨emitted, hprobed.size, fun earlier tally haccounts => ?_⟩
  have hdue := hprobed.joined.due hmade hsteady hfinds hprobed.width haccounts.slot
  have hrowsEmitted := hprobed.joined.uncounted.2
  refine ⟨_, ⟨haccounts.snoc haccounts.built hdue, ?_, ?_, ?_, ?_⟩, ?_⟩
  · intro other member
    rcases List.mem_append.mp member with hearlier | hlast
    · exact haccounts.widths other hearlier
    · rw [List.mem_singleton.mp hlast]
      exact hprobed.width
  · rw [hprobed.counters, haccounts.counters, ← billed_add]
  · cases hpassed : stage.passesOver left with
    | true =>
        intro side hside
        rw [(hprobed.joined.passed hpassed).1] at hside
        exact haccounts.slot side hside
    | false =>
        obtain ⟨fetched, hways, -⟩ := hprobed.joined.fetched hpassed
        exact hways.slot hsteady haccounts.slot
  · intro haccess
    rw [Tally.builds_add, haccounts.built haccess, (hdue.materialized haccess).2.2,
      hprobed.joined.isBuilt haccess]
    cases stage.passesOver left <;> cases s.site.build.isBuilt <;> rfl
  · simp [hrowsEmitted]

/-- So do successful probes by the rows of an input. -/
theorem advances_forM {input : List Pull} {s t : ProbeState}
    (h : (input.forM fun p => do let left ← Probe.pull p; stage.probeRow left) s = (.ok (), t)) :
    ∃ emitted, t.emitted.size = s.emitted.size + emitted ∧
      stage.Advances rows s.site t.site (input.filterMap fun p => p.item.toOption) emitted := by
  induction input generalizing s with
  | nil =>
      obtain ⟨-, rfl⟩ := pure_eq_ok h
      exact ⟨0, rfl, advances_nil _⟩
  | cons p rest ih =>
      obtain ⟨_, u, hfirst, hrest⟩ := bind_eq_ok h
      obtain ⟨left, v, hpull, hprobe⟩ := bind_eq_ok hfirst
      obtain ⟨hitem, hsite, hsame⟩ := pull_eq_ok hpull
      obtain ⟨emitted, hsize, hrow⟩ := advances_probeRow hmade hsteady hfinds hprobe
      obtain ⟨others, hmore, hothers⟩ := ih hrest
      rw [hsite] at hrow
      have hlefts : ((p :: rest).filterMap fun p => p.item.toOption) =
          [left] ++ rest.filterMap fun p => p.item.toOption := by
        rw [List.filterMap_cons, hitem]
        rfl
      rw [hlefts]
      exact ⟨emitted + others, by rw [hmore, hsize, hsame, Nat.add_assoc], hrow.trans hothers⟩

theorem advances_execute {input : List Pull} {out : List Row} {s t : StageState}
    (h : stage.execute input s = (.ok out, t)) :
    stage.Advances rows s.site t.site (input.filterMap fun p => p.item.toOption) out.length := by
  obtain ⟨u, hrun, rfl, rfl⟩ := Probe.collect_eq_ok (releasingOnCancel_eq_ok h)
  obtain ⟨emitted, hsize, hadvances⟩ := advances_forM hmade hsteady hfinds hrun
  have hlength : u.emitted.toList.length = emitted := by
    rw [Array.length_toList, hsize]
    exact Nat.zero_add emitted
  rw [hlength]
  exact hadvances

end

end

end JoinStage

/-! ### Calls -/

namespace StageCall

def lefts : StageCall → List Row
  | .probe left _ => [left]
  | .execute input => input.filterMap fun p => p.item.toOption
  | .release => []

def buffered : StageCall → Nat
  | .probe _ out => out.size
  | .execute _ => 0
  | .release => 0

end StageCall

namespace JoinStage

def produced : List (StageCall × CallResult) → Nat
  | [] => 0
  | (c, result) :: log => result.rows.length - c.buffered + produced log

section

variable [KeyHasher]

/-- Make calls one after the other, each in a state of the query of its own, and log what they
give. -/
def serve (stage : JoinStage) : Site → List (Session × StageCall) →
    List (StageCall × CallResult) × Site
  | site, [] => ([], site)
  | site, (session, c) :: rest =>
    let (result, s) := stage.call ⟨session, site⟩ c
    let (log, last) := serve stage s.site rest
    ((c, result) :: log, last)

variable {stage : JoinStage} {rows : List Row} {found : List Value → Except JoinError (List Row)}

section

variable (hmade : stage.Made) (hsteady : stage.right.Steady rows found)
  (hfinds : stage.right.Finds rows found)

include hmade hsteady hfinds

theorem advances_call {c : StageCall} {s : StageState} (hc : c ≠ .release)
    (hok : (stage.call s c).1.outcome = .ok ()) :
    stage.Advances rows s.site (stage.call s c).2.site c.lefts
      ((stage.call s c).1.rows.length - c.buffered) := by
  cases c with
  | release => exact absurd rfl hc
  | probe left out =>
      cases hrun : stage.probeRow left ⟨s.session, s.site, out⟩ with
      | mk outcome t =>
          simp only [call, hrun] at hok ⊢
          rw [hok] at hrun
          obtain ⟨emitted, hsize, hadvances⟩ := advances_probeRow hmade hsteady hfinds hrun
          have hnew : t.emitted.toList.length - StageCall.buffered (.probe left out) = emitted := by
            rw [Array.length_toList, hsize]
            exact Nat.add_sub_cancel_left _ _
          rw [hnew]
          exact hadvances
  | execute input =>
      cases hrun : stage.execute input s with
      | mk outcome t =>
          simp only [call, hrun] at hok ⊢
          cases outcome with
          | error e => cases hok
          | ok out => exact advances_execute hmade hsteady hfinds hrun

/-- Successful calls advance the account by all their left rows. -/
theorem advances_serve {calls : List (Session × StageCall)} {site : Site}
    (hcalls : ∀ call ∈ calls, call.2 ≠ .release)
    (hok : ∀ entry ∈ (stage.serve site calls).1, entry.2.outcome = .ok ()) :
    stage.Advances rows site (stage.serve site calls).2
      (calls.flatMap fun call => call.2.lefts) (produced (stage.serve site calls).1) := by
  induction calls generalizing site with
  | nil => exact advances_nil site
  | cons call rest ih =>
      obtain ⟨session, c⟩ := call
      rw [List.forall_mem_cons] at hcalls
      simp only [serve, List.forall_mem_cons] at hok
      have hfirst := advances_call hmade hsteady hfinds (s := ⟨session, site⟩) hcalls.1 hok.1
      exact hfirst.trans (ih hcalls.2 hok.2)

end

/-- Two stages that mirror each other give the same in every call, whatever the calls are. -/
theorem serve_mirrored {other : JoinStage}
    (hmirrors : stage.Mirrors other (.ok rows) found fun _ => False)
    (hagrees : stage.right.Agrees rows) (hothers : other.right.Agrees rows)
    (calls : List (Session × StageCall)) {site slot : Site} (hsite : stage.Reached site)
    (hslot : other.Reached slot) :
    (stage.serve site calls).1 = (other.serve slot calls).1 := by
  induction calls generalizing site slot with
  | nil => rfl
  | cons call rest ih =>
      obtain ⟨session, c⟩ := call
      have haligned : stage.Aligned other .shared (.ok rows) (session.calls.of stage.relation)
          (StageState.probing ⟨session, site⟩) (StageState.probing ⟨session, slot⟩) :=
        ⟨.same (Session.sameToken_refl _), rfl, hsite.slotHolds hagrees, hslot.slotHolds hothers,
          Calls.upTo_refl _⟩
      have hresult : (stage.call ⟨session, site⟩ c).1 = (other.call ⟨session, slot⟩ c).1 := by
        rcases call_matches hmirrors c (s := ⟨session, site⟩) (t := ⟨session, slot⟩) haligned with
          hsame | ⟨_, hnever, -⟩
        · exact hsame
        · exact hnever.elim
      simp only [serve, hresult]
      rw [ih (reached_call c (s := ⟨session, site⟩) hsite)
        (reached_call c (s := ⟨session, slot⟩) hslot)]

section

variable {condition : Expr} {leftArity rightArity : Nat} {d : JoinDescriptor}
  {right : RightRelation} {config : JoinConfig} {relation : Nat}

/-- The same stage without counters can be created, and it gives the same in every call. -/
theorem exists_uncounted (hsteady : right.Steady rows found)
    (hcreate : create d right config relation = .ok stage) :
    ∃ quiet, create d right (config.withMetrics false) relation = .ok quiet ∧
      ∀ calls, (stage.serve {} calls).1 = (quiet.serve {} calls).1 := by
  obtain ⟨hbounded, harity, rfl⟩ := create_eq_ok_iff.mp hcreate
  refine ⟨_, create_eq_ok_iff.mpr ⟨hbounded, harity, rfl⟩, fun calls => ?_⟩
  have hanswers : right.Answers (.ok rows) found fun _ => False :=
    ⟨fun n => Or.inl (hsteady.scan n),
      fun source hsource n key => Or.inl (hsteady.lookup source hsource n key)⟩
  have hmirrors : Mirrors ⟨d, right, config, modeOf d, (accessTo d (modeOf d) right).1,
      (accessTo d (modeOf d) right).2, relation⟩ ⟨d, right, config.withMetrics false, modeOf d,
      (accessTo d (modeOf d) right).1, (accessTo d (modeOf d) right).2, relation⟩ (.ok rows) found
        fun _ => False :=
    ⟨rfl, rfl, rfl, rfl, rfl, rfl, Or.inr (sidesAlike_refl _), hanswers, hanswers⟩
  exact serve_mirrored hmirrors hsteady.agrees hsteady.agrees calls .fresh .fresh

omit [KeyHasher] in
theorem Balanced.hashed {lefts : List Row} {tally : Tally}
    (h : stage.Balanced rows lefts tally) (hmade : stage.Made) (hmode : stage.mode = .hashProbe)
    (hwidths : ∀ left ∈ lefts, left.length = stage.descriptor.leftArity) :
    tally.nullKeySkips = lefts.countP stage.descriptor.hasNullKey ∧
      tally.rowsEmitted + tally.residualRejections =
        stage.descriptor.equalPairs lefts rows := by
  constructor
  · rw [h.skips]
    apply List.countP_congr
    intro left member
    rw [passesOver_eq_hasNullKey hmade hmode (hwidths left member)]
  · rw [h.pairs]
    apply List.countP_congr
    rintro ⟨left, right⟩ -
    change stage.pairs left right = true ↔
      (stage.descriptor.pairTruths left right).all Ternary.isTrue = true
    have hmatch : stage.pairs left right = stage.keysMatch left right := by
      simp only [JoinStage.pairs, hmode]
    rw [hmatch, keysMatch_iff, List.all_eq_true]
    simp only [Ternary.isTrue_iff]

omit [KeyHasher] in
theorem Balanced.scanned {lefts : List Row} {tally : Tally}
    (h : stage.Balanced rows lefts tally) (hmode : stage.mode = .fullScan) :
    tally.nullKeySkips = 0 ∧
      tally.rowsEmitted + tally.residualRejections = tally.probes * rows.length := by
  have hkept : stage.passesOver = fun _ => false := by
    funext left
    simp only [passesOver, hmode]
  have hpairs (left right : Row) : stage.pairs left right = true := by
    simp only [JoinStage.pairs, hmode]
  constructor
  · simp [h.skips, hkept]
  · simp only [h.pairs, h.probes, hpairs, List.countP_true]
    exact List.length_product lefts rows

/-- The counters of a stage add up. A stage that is made of a split condition and a relation in
memory, and that counts, is called any number of times to join a row or a whole input, and every
call succeeds. Each counter then shows, in 64 bits, a count of what has happened. The probes are
the left rows, and the rows emitted are the rows produced. Matching by key, the left rows with a
null in a pair are passed over, and the pairs of rows on which all pairs of columns are equal are
emitted or rejected; without keys nothing is passed over, and every pair of rows is emitted or
rejected. A stage that looks up asks once for every row that is not passed over, and another never
asks; one that scans again scans once for every such row and builds nothing; and one with a
materialized side scans and builds once if there is such a row, all the right rows. A stage that
does not count gives the same in every call, and its counters stay zero. -/
theorem counters_add_up
    (hclassify : JoinDescriptor.classify condition leftArity rightArity = .ok d)
    (hmemory : right.InMemory rows) (hcreate : create d right config relation = .ok stage)
    (hmetrics : config.collectMetrics = true) {calls : List (Session × StageCall)}
    (hcalls : ∀ call ∈ calls, call.2 ≠ .release)
    (hok : ∀ entry ∈ (stage.serve {} calls).1, entry.2.outcome = .ok ()) :
    let lefts := calls.flatMap fun call => call.2.lefts
    (∃ tally : Tally, (stage.serve {} calls).2.counters = Counters.plus {} tally ∧
      tally.probes = lefts.length ∧
      tally.rowsEmitted = produced (stage.serve {} calls).1 ∧
      (stage.mode = .hashProbe →
        tally.nullKeySkips = lefts.countP d.hasNullKey ∧
          tally.rowsEmitted + tally.residualRejections = d.equalPairs lefts rows) ∧
      (stage.mode = .fullScan →
        tally.nullKeySkips = 0 ∧
          tally.rowsEmitted + tally.residualRejections = tally.probes * rows.length) ∧
      tally.lookups =
        (if stage.access = .lookup then tally.probes - tally.nullKeySkips else 0) ∧
      (stage.access = .rescan →
        tally.scans = tally.probes - tally.nullKeySkips ∧ tally.builds = 0) ∧
      (stage.access = .materialized →
        tally.scans = tally.builds ∧
          tally.builds = (if tally.nullKeySkips < tally.probes then 1 else 0) ∧
          tally.buildRows = tally.builds * rows.length)) ∧
      ∃ quiet, create d right (config.withMetrics false) relation = .ok quiet ∧
        (quiet.serve {} calls).1 = (stage.serve {} calls).1 ∧
        (quiet.serve {} calls).2.counters = {} := by
  intro lefts
  obtain ⟨found, hsteady, hfinds⟩ := hmemory.steady
  obtain ⟨hmade, -, -, -, hright, hconfig⟩ := made_of_create hclassify hcreate
  have hdescriptor : stage.descriptor = d := by
    obtain ⟨-, -, rfl⟩ := create_eq_ok_iff.mp hcreate
    rfl
  rw [← hright] at hsteady hfinds
  obtain ⟨tally, haccounts, hemitted⟩ :=
    advances_serve hmade hsteady hfinds hcalls hok [] {} accounts_fresh
  rw [List.nil_append] at haccounts
  constructor
  · have hskips := haccounts.skips_le
    refine ⟨tally, ?_, haccounts.probes, ?_, fun hmode => ?_, haccounts.scanned, ?_, ?_, ?_⟩
    · rw [haccounts.counters, billed, hconfig, if_pos hmetrics]
    · rw [hemitted]
      exact Nat.zero_add _
    · rw [← hdescriptor]
      exact haccounts.hashed hmade hmode haccounts.widths
    · split
      next haccess =>
        have hlookups := haccounts.lookups haccess
        omega
      next haccess => exact haccounts.unasked haccess
    · intro haccess
      obtain ⟨hscans, hbuilds⟩ := haccounts.rescans haccess
      exact ⟨by omega, hbuilds⟩
    · intro haccess
      obtain ⟨hscans, hrows, hbuilds⟩ := haccounts.materialized haccess
      exact ⟨hscans, hbuilds, hrows⟩
  · rw [hright] at hsteady hfinds
    obtain ⟨quiet, hquiet, hsame⟩ := exists_uncounted hsteady hcreate
    refine ⟨quiet, hquiet, (hsame calls).symm, ?_⟩
    obtain ⟨hmade, -, -, -, hright, hconfig⟩ := made_of_create hclassify hquiet
    rw [← hright] at hsteady hfinds
    rw [hsame calls] at hok
    obtain ⟨_, haccounts, -⟩ := advances_serve hmade hsteady hfinds hcalls hok [] {} accounts_fresh
    rw [haccounts.counters, billed, hconfig]
    rfl

end

end

/-- A row is joined into a buffer that holds one already, and then two rows of which one has no
key. Each of the two that have one meets its key twice, and the residual rejects one of the
pairs. -/
theorem counters_add_up_over_two_calls :
    let rows : List Row := [[.int32 1, .int32 5], [.null, .int32 6], [.int32 1, .int32 7]]
    let right : RightRelation := .bounded ⟨"r", 2, false, fun _ => .ok rows⟩
    let residual : Expr := .compare .gt (.column 2) (.literal (.int64 5))
    let condition : Expr := .and [.columnsEqual 0 1, residual]
    let d : JoinDescriptor := ⟨[0], [0], some residual, condition, 1, 2⟩
    let stage : JoinStage := ⟨d, right, {}, .hashProbe, .materialized, [], 0⟩
    let calls : List (Session × StageCall) :=
      [({}, .probe [.int64 1] #[[.null]]),
        ({}, .execute [Pull.ofRow [.null], Pull.ofRow [.float64 (Double.ofInt 1)]])]
    JoinDescriptor.classify condition 1 2 = .ok d ∧ create d right {} 0 = .ok stage ∧
      (∀ entry ∈ (stage.serve {} calls).1, entry.2.outcome = .ok ()) ∧
      (stage.serve {} calls).2.counters = {
        builds := 1
        buildRows := 3
        probes := 3
        scans := 1
        rowsEmitted := 2
        nullKeySkips := 1
        residualRejections := 2 } := by
  intro rows right residual condition d stage calls
  have hclassify : JoinDescriptor.classify condition 1 2 = .ok d := rfl
  have hcreate : create d right {} 0 = .ok stage := rfl
  have hrelation : MemoryRelation.ofRows "r" 2 rows false = .ok ⟨"r", 2, rows, false⟩ := rfl
  have hmemory : right.InMemory rows := .bounded hrelation
  have hcalls : ∀ call ∈ calls, call.2 ≠ .release := by
    simp [calls]
  have hends : ((stage.serve {} calls).1.all fun entry => entry.2.outcome.toBool) = true := by
    decide +kernel
  have hok : ∀ entry ∈ (stage.serve {} calls).1, entry.2.outcome = .ok () :=
    fun entry member => eq_ok_of_toBool (List.all_eq_true.mp hends entry member)
  obtain ⟨⟨tally, hcounters, hprobes, hemitted, hhashed, -, hlookups, -, hmaterialized⟩, -⟩ :=
    counters_add_up hclassify hmemory hcreate rfl hcalls hok
  obtain ⟨hnulls, hpairs⟩ := hhashed rfl
  obtain ⟨hscans, hbuilds, hrows⟩ := hmaterialized rfl
  have hthree : tally.probes = 3 := hprobes
  have hone : tally.nullKeySkips = 1 := hnulls
  have htwo : tally.rowsEmitted = 2 := by
    rw [hemitted]
    decide +kernel
  have hfour : tally.rowsEmitted + tally.residualRejections = 4 := by
    rw [hpairs]
    decide +kernel
  have hbuilt : tally.builds = 1 := by
    rw [hbuilds, hthree, hone]
    rfl
  have htally : tally = ⟨1, 3, 3, 0, 1, 2, 1, 2⟩ := by
    ext
    case builds => exact hbuilt
    case buildRows => rw [hrows, hbuilt]; rfl
    case probes => exact hthree
    case lookups => exact hlookups
    case scans => exact hscans.trans hbuilt
    case rowsEmitted => exact htwo
    case nullKeySkips => exact hone
    case residualRejections => exact Nat.add_left_cancel (htwo ▸ hfour)
  rw [htally] at hcounters
  exact ⟨hclassify, hcreate, hok, hcounters⟩

end JoinStage

end JoinEngine
