import JoinEngine.Proofs.Exec.Lookup

/-!
What steps that succeed add to the counters of a site. A `Tally` counts the same things exactly,
and the counters show each count in 64 bits. Emitting and testing are accounted for pair by pair:
a pair of rows that is tested is emitted or rejected. Fetching the right rows of a left row costs a
lookup, a scan, a scan and a build, or nothing. Nothing is asked of the relation or of the query
here, and nothing is said of steps that fail.
-/

namespace JoinEngine

/-- Exact counts of what a site counts. -/
@[ext] structure Tally where
  builds : Nat := 0
  buildRows : Nat := 0
  probes : Nat := 0
  lookups : Nat := 0
  scans : Nat := 0
  rowsEmitted : Nat := 0
  nullKeySkips : Nat := 0
  residualRejections : Nat := 0
  deriving DecidableEq

namespace Tally

instance : Add Tally where
  add a b := {
    builds := a.builds + b.builds
    buildRows := a.buildRows + b.buildRows
    probes := a.probes + b.probes
    lookups := a.lookups + b.lookups
    scans := a.scans + b.scans
    rowsEmitted := a.rowsEmitted + b.rowsEmitted
    nullKeySkips := a.nullKeySkips + b.nullKeySkips
    residualRejections := a.residualRejections + b.residualRejections }

section

variable (a b : Tally)

@[simp] theorem builds_add : (a + b).builds = a.builds + b.builds := rfl

@[simp] theorem buildRows_add : (a + b).buildRows = a.buildRows + b.buildRows := rfl

@[simp] theorem probes_add : (a + b).probes = a.probes + b.probes := rfl

@[simp] theorem lookups_add : (a + b).lookups = a.lookups + b.lookups := rfl

@[simp] theorem scans_add : (a + b).scans = a.scans + b.scans := rfl

@[simp] theorem rowsEmitted_add : (a + b).rowsEmitted = a.rowsEmitted + b.rowsEmitted := rfl

@[simp] theorem nullKeySkips_add : (a + b).nullKeySkips = a.nullKeySkips + b.nullKeySkips := rfl

@[simp] theorem residualRejections_add :
    (a + b).residualRejections = a.residualRejections + b.residualRejections := rfl

end

end Tally

namespace Counters

/-- The counters after a tally more. They are 64 bits wide and wrap around. -/
def plus (c : Counters) (t : Tally) : Counters where
  builds := c.builds + UInt64.ofNat t.builds
  buildRows := c.buildRows + UInt64.ofNat t.buildRows
  probes := c.probes + UInt64.ofNat t.probes
  lookups := c.lookups + UInt64.ofNat t.lookups
  scans := c.scans + UInt64.ofNat t.scans
  rowsEmitted := c.rowsEmitted + UInt64.ofNat t.rowsEmitted
  nullKeySkips := c.nullKeySkips + UInt64.ofNat t.nullKeySkips
  residualRejections := c.residualRejections + UInt64.ofNat t.residualRejections

variable (c : Counters)

theorem plus_zero : c.plus {} = c := by
  simp [plus]

theorem plus_add (a b : Tally) : c.plus (a + b) = (c.plus a).plus b := by
  simp [plus, UInt64.ofNat_add, UInt64.add_assoc]

theorem build_eq_plus (rows : Nat) : c.build rows = c.plus { builds := 1, buildRows := rows } := by
  simp [build, plus]

theorem probe_eq_plus : c.probe = c.plus { probes := 1 } := by
  simp [probe, plus]

theorem lookup_eq_plus : c.lookup = c.plus { lookups := 1 } := by
  simp [lookup, plus]

theorem scan_eq_plus : c.scan = c.plus { scans := 1 } := by
  simp [scan, plus]

theorem emitted_eq_plus (rows : Nat) : c.emitted rows = c.plus { rowsEmitted := rows } := by
  simp [emitted, plus]

theorem nullKeySkip_eq_plus : c.nullKeySkip = c.plus { nullKeySkips := 1 } := by
  simp [nullKeySkip, plus]

theorem residualRejection_eq_plus :
    c.residualRejection = c.plus { residualRejections := 1 } := by
  simp [residualRejection, plus]

end Counters

namespace JoinStage

def billed (stage : JoinStage) (c : Counters) (t : Tally) : Counters :=
  if stage.config.collectMetrics then c.plus t else c

/-- Between the two states a number of rows is emitted and a tally counted; the slot stays as it
is. -/
structure Spends (stage : JoinStage) (s t : ProbeState) (emitted : Nat) (tally : Tally) : Prop where
  emitted : t.emitted.size = s.emitted.size + emitted
  counters : t.site.counters = stage.billed s.site.counters tally
  build : t.site.build = s.site.build

/-- Between the two states a number of pairs of rows is tested: some are emitted, the others are
counted as rejected. -/
def Tries (stage : JoinStage) (s t : ProbeState) (pairs : Nat) : Prop :=
  ∃ emitted rejected, emitted + rejected = pairs ∧
    stage.Spends s t emitted { residualRejections := rejected }

variable {stage : JoinStage} {s t u : ProbeState} {left right : Row}

open Run

theorem billed_zero (c : Counters) : stage.billed c {} = c := by
  unfold billed
  rw [Counters.plus_zero, ite_self]

theorem billed_add (c : Counters) (a b : Tally) :
    stage.billed c (a + b) = stage.billed (stage.billed c a) b := by
  unfold billed
  cases stage.config.collectMetrics with
  | true => exact c.plus_add a b
  | false => rfl

/-- Where neither the site nor the rows change, nothing is spent. -/
theorem spends_zero (hsite : t.site = s.site) (hemitted : t.emitted = s.emitted) :
    stage.Spends s t 0 {} := by
  refine ⟨by rw [hemitted, Nat.add_zero], ?_, by rw [hsite]⟩
  rw [hsite, billed_zero]

theorem Spends.trans {m n : Nat} {a b : Tally} (h : stage.Spends s t m a)
    (h' : stage.Spends t u n b) : stage.Spends s u (m + n) (a + b) where
  emitted := by rw [h'.emitted, h.emitted, Nat.add_assoc]
  counters := by rw [h'.counters, h.counters, billed_add]
  build := h'.build.trans h.build

theorem Tries.trans {m n : Nat} (h : stage.Tries s t m) (h' : stage.Tries t u n) :
    stage.Tries s u (m + n) := by
  obtain ⟨emitted, rejected, rfl, hfirst⟩ := h
  obtain ⟨others, refused, rfl, hnext⟩ := h'
  exact ⟨emitted + others, rejected + refused, by omega, hfirst.trans hnext⟩

theorem tries_zero (h : stage.Spends s t 0 {}) : stage.Tries s t 0 :=
  ⟨0, 0, rfl, h⟩

theorem spends_count {change : Counters → Counters} {tally : Tally}
    (hchange : ∀ c, change c = c.plus tally) (h : stage.count change s = (.ok (), t)) :
    stage.Spends s t 0 tally := by
  have hcount : stage.count change s =
      (.ok (), if stage.config.collectMetrics then
        { s with site := { s.site with counters := change s.site.counters } } else s) := rfl
  rw [hcount] at h
  obtain ⟨-, rfl⟩ := Prod.mk.inj h
  cases hmetrics : stage.config.collectMetrics with
  | true => exact ⟨rfl, by simp [billed, hmetrics, hchange], rfl⟩
  | false => exact ⟨rfl, by simp [billed, hmetrics], rfl⟩

/-! ### Testing -/

theorem tries_emit {row : Row} (h : Probe.emit row s = (.ok (), t)) : stage.Tries s t 1 := by
  obtain ⟨-, rfl⟩ := Prod.mk.inj h
  exact ⟨1, 0, rfl, Array.size_push row, (billed_zero _).symm, rfl⟩

theorem tries_emitIf {predicate : Option Expr}
    (h : stage.emitIf predicate left right s = (.ok (), t)) : stage.Tries s t 1 := by
  cases predicate with
  | none => exact tries_emit h
  | some p =>
      obtain ⟨truth, u, htruth, hlast⟩ := bind_eq_ok h
      have htested : stage.Tries s u 0 := by
        obtain ⟨_, v, hcounted, hholds⟩ := bind_eq_ok htruth
        obtain ⟨-, rfl⟩ := lift_eq_ok hholds
        obtain ⟨-, rfl⟩ := Prod.mk.inj hcounted
        exact tries_zero (spends_zero rfl rfl)
      refine htested.trans (n := 1) ?_
      cases hholds : truth.isTrue with
      | true =>
          rw [hholds] at hlast
          exact tries_emit hlast
      | false =>
          rw [hholds] at hlast
          exact ⟨0, 1, rfl, spends_count Counters.residualRejection_eq_plus hlast⟩

theorem tries_emitIfEqual (h : stage.emitIfEqual left right s = (.ok (), t)) :
    stage.Tries s t (if stage.keysMatch left right then 1 else 0) := by
  unfold emitIfEqual at h
  cases hmatch : stage.keysMatch left right with
  | true =>
      rw [hmatch] at h
      exact tries_emitIf h
  | false =>
      rw [hmatch] at h
      obtain ⟨-, rfl⟩ := pure_eq_ok h
      exact tries_zero (spends_zero rfl rfl)

/-- Steps for every item test as many pairs as there are items for which they test one. -/
theorem tries_forM {α : Type} {tested : α → Bool} {steps : α → Probe Unit} {items : List α}
    (hsteps : ∀ a s t, steps a s = (.ok (), t) → stage.Tries s t (if tested a then 1 else 0))
    (h : items.forM steps s = (.ok (), t)) : stage.Tries s t (items.countP tested) := by
  induction items generalizing s with
  | nil =>
      obtain ⟨-, rfl⟩ := pure_eq_ok h
      exact tries_zero (spends_zero rfl rfl)
  | cons a rest ih =>
      obtain ⟨_, u, hfirst, hrest⟩ := bind_eq_ok h
      rw [List.countP_cons, Nat.add_comm]
      exact (hsteps a s u hfirst).trans (ih hrest)

/-! ### Fetching -/

theorem eq_of_check (h : Probe.check s = (.ok (), t)) : t = s := by
  obtain ⟨_, u, hget, hcheck⟩ := bind_eq_ok h
  obtain ⟨rfl, rfl⟩ := get_eq_ok hget
  exact (lift_eq_ok hcheck).2.symm

theorem eq_of_forM_lift {α : Type} {outcome : α → Except JoinError Unit} {items : List α}
    (h : (items.forM fun a => (liftM (outcome a) : Probe Unit)) s = (.ok (), t)) : t = s := by
  induction items generalizing s with
  | nil => exact (pure_eq_ok h).2.symm
  | cons a rest ih =>
      obtain ⟨_, u, hfirst, hrest⟩ := bind_eq_ok h
      obtain ⟨-, rfl⟩ := lift_eq_ok hfirst
      exact ih hrest

theorem spends_scanRight {rows : List Row} (h : stage.scanRight s = (.ok rows, t)) :
    stage.Spends s t 0 { scans := 1 } ∧ ∃ n, stage.right.scan n = .ok rows := by
  obtain ⟨_, u, hcount, hread⟩ := bind_eq_ok h
  obtain ⟨_, v, hget, hcall⟩ := bind_eq_ok hread
  obtain ⟨rfl, rfl⟩ := get_eq_ok hget
  obtain ⟨_, w, hcalled, hscan⟩ := bind_eq_ok hcall
  obtain ⟨-, rfl⟩ := Prod.mk.inj hcalled
  obtain ⟨hrows, rfl⟩ := lift_eq_ok hscan
  obtain ⟨hemitted, hcounters, hbuild⟩ := spends_count Counters.scan_eq_plus hcount
  exact ⟨⟨hemitted, hcounters, hbuild⟩, _, hrows⟩

theorem spends_rescan {rows : List Row} (h : stage.rescan s = (.ok rows, t)) :
    stage.Spends s t 0 { scans := 1 } ∧ ∃ n, stage.right.scan n = .ok rows := by
  obtain ⟨scanned, u, hscan, hrest⟩ := bind_eq_ok h
  obtain ⟨_, v, hexpected, hlast⟩ := bind_eq_ok hrest
  obtain rfl := eq_of_forM_lift hexpected
  obtain ⟨rfl, rfl⟩ := pure_eq_ok hlast
  exact spends_scanRight hscan

theorem spends_lookUp {source : KeyedSource} {key : List Value} {rows : List Row}
    (h : stage.lookUp source key s = (.ok rows, t)) :
    stage.Spends s t 0 { lookups := 1 } ∧ ∃ n, source.lookup n key = .ok rows := by
  obtain ⟨_, u, hcount, hread⟩ := bind_eq_ok h
  obtain ⟨_, v, hget, hcall⟩ := bind_eq_ok hread
  obtain ⟨rfl, rfl⟩ := get_eq_ok hget
  obtain ⟨_, w, hcalled, hlookup⟩ := bind_eq_ok hcall
  obtain ⟨-, rfl⟩ := Prod.mk.inj hcalled
  obtain ⟨hrows, rfl⟩ := lift_eq_ok hlookup
  obtain ⟨hemitted, hcounters, hbuild⟩ := spends_count Counters.lookup_eq_plus hcount
  exact ⟨⟨hemitted, hcounters, hbuild⟩, _, hrows⟩

section

variable [KeyHasher]

theorem spends_makeSide {side : BuildSide} (h : stage.makeSide s = (.ok side, t)) :
    stage.Spends s t 0 ({ scans := 1 } + { builds := 1, buildRows := side.size }) ∧
      ∃ n rows, stage.right.scan n = .ok rows ∧ stage.sideOf rows = .ok side := by
  obtain ⟨rows, u, hscan, hmake⟩ := bind_eq_ok h
  obtain ⟨made, v, hmade, hbuilt⟩ := bind_eq_ok hmake
  obtain ⟨hside, rfl⟩ := lift_eq_ok hmade
  obtain ⟨_, w, hcount, hlast⟩ := bind_eq_ok hbuilt
  obtain ⟨rfl, rfl⟩ := pure_eq_ok hlast
  obtain ⟨hscanned, n, hrows⟩ := spends_scanRight hscan
  exact ⟨hscanned.trans (spends_count (Counters.build_eq_plus · _) hcount), n, rows, hrows, hside⟩

def drawn (stage : JoinStage) (left : Row) (side : BuildSide) : List Row :=
  match stage.mode, stage.descriptor.leftKey left with
  | .hashProbe, some key => (side.candidates (hashKey key)).map side.arena.row
  | .hashProbe, none => []
  | .fullScan, _ => side.arena.rows

/-- The ways to fetch the right rows of a left row: what they do to the slot, which rows they
give and what they cost. -/
inductive Fetches (stage : JoinStage) (left : Row) :
    SharedBuild → SharedBuild → List Row → Tally → Prop where
  | found {slot : SharedBuild} {source : KeyedSource} {n : Nat} {rows : List Row}
      (haccess : stage.access = .lookup) (hright : stage.right = .partitioned source)
      (hrows : source.lookup n (stage.sought left) = .ok rows) :
      Fetches stage left slot slot rows { lookups := 1 }
  | rescanned {slot : SharedBuild} {n : Nat} {rows : List Row} (haccess : stage.access = .rescan)
      (hrows : stage.right.scan n = .ok rows) : Fetches stage left slot slot rows { scans := 1 }
  | held {slot : SharedBuild} {side : BuildSide} (htaken : ¬ stage.Sideless)
      (hside : slot.side = some side) : Fetches stage left slot slot (stage.drawn left side) {}
  | built {slot : SharedBuild} {n : Nat} {rows : List Row} {side : BuildSide}
      (htaken : ¬ stage.Sideless) (hempty : slot.side = none)
      (hrows : stage.right.scan n = .ok rows) (hside : stage.sideOf rows = .ok side) :
      Fetches stage left slot ⟨some side⟩ (stage.drawn left side)
        ({ scans := 1 } + { builds := 1, buildRows := side.size })

structure Fetched (stage : JoinStage) (left : Row) (s t : ProbeState) (rows : List Row)
    (bill : Tally) : Prop where
  emitted : t.emitted.size = s.emitted.size
  counters : t.site.counters = stage.billed s.site.counters bill
  ways : stage.Fetches left s.site.build t.site.build rows bill

theorem Spends.fetched {bill : Tally} {rows : List Row} (h : stage.Spends s t 0 bill)
    (hways : stage.Fetches left s.site.build s.site.build rows bill) :
    stage.Fetched left s t rows bill :=
  ⟨h.emitted, h.counters, h.build ▸ hways⟩

theorem fetched_side (htaken : ¬ stage.Sideless) {side : BuildSide}
    (h : stage.side s = (.ok side, t)) :
    ∃ bill, stage.Fetched left s t (stage.drawn left side) bill := by
  rw [side_apply] at h
  cases hslot : s.site.build.side with
  | some held =>
      simp only [hslot] at h
      obtain ⟨hside, rfl⟩ := Prod.mk.inj h
      obtain rfl := Except.ok.inj hside
      exact ⟨{}, (spends_zero rfl rfl).fetched (.held htaken hslot)⟩
  | none =>
      cases hrun : stage.makeSide s with
      | mk result u =>
          simp only [hslot, hrun] at h
          cases result with
          | error e => cases h
          | ok made =>
              obtain ⟨hside, rfl⟩ := Prod.mk.inj h
              obtain rfl := Except.ok.inj hside
              obtain ⟨hspent, n, rows, hrows, hmade⟩ := spends_makeSide hrun
              exact ⟨_, hspent.emitted, hspent.counters, .built htaken hslot hrows hmade⟩

/-! ### Probing -/

/-- The left row is passed over: matching by key, it has a null in its key. -/
def passesOver (stage : JoinStage) (left : Row) : Bool :=
  match stage.mode with
  | .hashProbe => (stage.descriptor.leftKey left).isNone
  | .fullScan => false

/-- The pair of rows is tested: matching by key, only if the keys are equal. -/
def pairs (stage : JoinStage) (left right : Row) : Bool :=
  match stage.mode with
  | .hashProbe => stage.keysMatch left right
  | .fullScan => true

def FetchesAndTries (stage : JoinStage) (left : Row) (s t : ProbeState) : Prop :=
  ∃ u rows bill, stage.Fetched left s u rows bill ∧
    stage.Tries u t (rows.countP (stage.pairs left))

omit [KeyHasher] in
theorem tries_testEqual (hmode : stage.mode = .hashProbe) {rows : List Row}
    (h : rows.forM (stage.emitIfEqual left) s = (.ok (), t)) :
    stage.Tries s t (rows.countP (stage.pairs left)) := by
  have hpairs : stage.pairs left = stage.keysMatch left := by
    funext right
    simp only [pairs, hmode]
  rw [hpairs]
  exact tries_forM (fun right _ _ => tries_emitIfEqual) h

omit [KeyHasher] in
theorem tries_testAnswer (hmode : stage.mode = .hashProbe) {rows : List Row}
    (h : stage.testAnswer left rows s = (.ok (), t)) :
    stage.Tries s t (rows.countP (stage.pairs left)) := by
  refine tries_forM (fun right u v hstep => ?_) h
  obtain ⟨_, w, hexpected, htest⟩ := bind_eq_ok hstep
  obtain ⟨-, rfl⟩ := lift_eq_ok hexpected
  simp only [pairs, hmode]
  exact tries_emitIfEqual htest

section

variable {key : List Value} (hkey : stage.descriptor.leftKey left = some key)

include hkey

theorem probeKeyed_of_lookup {source : KeyedSource} (haccess : stage.access = .lookup)
    (hright : stage.right = .partitioned source) :
    stage.probeKeyed left = (do
      Probe.check
      let rows ← stage.lookUp source (stage.sought left)
      stage.testAnswer left rows) := by
  simp only [probeKeyed, hkey, haccess, hright]
  rfl

theorem probeKeyed_of_rescan (haccess : stage.access = .rescan) :
    stage.probeKeyed left = (do
      let rows ← stage.rescan
      rows.forM (stage.emitIfEqual left)) := by
  simp only [probeKeyed, hkey, haccess]

theorem probeKeyed_of_side (hmode : stage.mode = .hashProbe)
    (haccess : stage.access = .materialized) :
    stage.probeKeyed left = (do
      let side ← stage.side
      (stage.drawn left side).forM (stage.emitIfEqual left)) := by
  simp only [probeKeyed, drawn, hkey, hmode, haccess]

theorem exists_source_of_lookup (haccess : stage.access = .lookup)
    (h : stage.probeKeyed left s = (.ok (), t)) : ∃ source, stage.right = .partitioned source := by
  cases hright : stage.right with
  | partitioned source => exact ⟨source, rfl⟩
  | bounded source | rescan source =>
      simp only [probeKeyed, hkey, haccess, hright] at h
      cases h

theorem fetchesAndTries_probeKeyed (hmode : stage.mode = .hashProbe)
    (h : stage.probeKeyed left s = (.ok (), t)) : stage.FetchesAndTries left s t := by
  cases haccess : stage.access with
  | rescan =>
      rw [probeKeyed_of_rescan hkey haccess] at h
      obtain ⟨rows, u, hrescan, htest⟩ := bind_eq_ok h
      obtain ⟨hspent, n, hrows⟩ := spends_rescan hrescan
      exact ⟨u, rows, _, hspent.fetched (.rescanned haccess hrows), tries_testEqual hmode htest⟩
  | lookup =>
      obtain ⟨source, hright⟩ := exists_source_of_lookup hkey haccess h
      rw [probeKeyed_of_lookup hkey haccess hright] at h
      obtain ⟨_, u, hcheck, hask⟩ := bind_eq_ok h
      obtain rfl := eq_of_check hcheck
      obtain ⟨rows, v, hlookUp, htest⟩ := bind_eq_ok hask
      obtain ⟨hspent, n, hrows⟩ := spends_lookUp hlookUp
      exact ⟨v, rows, _, hspent.fetched (.found haccess hright hrows),
        tries_testAnswer hmode htest⟩
  | materialized =>
      rw [probeKeyed_of_side hkey hmode haccess] at h
      obtain ⟨side, u, hside, htest⟩ := bind_eq_ok h
      obtain ⟨bill, hfetched⟩ := fetched_side (not_sideless_of_materialized haccess) hside
      exact ⟨u, _, bill, hfetched, tries_testEqual hmode htest⟩

end

theorem fetched_allRight (hmode : stage.mode = .fullScan) {rows : List Row}
    (h : stage.allRight s = (.ok rows, t)) : ∃ bill, stage.Fetched left s t rows bill := by
  by_cases haccess : stage.access = .rescan
  · have hrescan : stage.allRight = stage.rescan := by
      simp only [allRight, haccess]
    rw [hrescan] at h
    obtain ⟨hspent, n, hrows⟩ := spends_rescan h
    exact ⟨_, hspent.fetched (.rescanned haccess hrows)⟩
  · have htaken : ¬ stage.Sideless := by
      rintro (hrescan | ⟨-, hprobe, -⟩)
      · exact haccess hrescan
      · rw [hmode] at hprobe
        cases hprobe
    have hall : stage.allRight = (do return stage.drawn left (← stage.side)) := by
      cases hkind : stage.access with
      | rescan => exact absurd hkind haccess
      | materialized | lookup => simp only [allRight, drawn, hmode, hkind]
    rw [hall] at h
    obtain ⟨side, u, hside, hread⟩ := bind_eq_ok h
    obtain ⟨rfl, rfl⟩ := pure_eq_ok hread
    exact fetched_side htaken hside

theorem fetchesAndTries_probeAll (hmode : stage.mode = .fullScan)
    (h : stage.probeAll left s = (.ok (), t)) : stage.FetchesAndTries left s t := by
  rw [probeAll_eq] at h
  obtain ⟨rows, u, hrows, htest⟩ := bind_eq_ok h
  obtain ⟨bill, hfetched⟩ : ∃ bill, stage.Fetched left s u rows bill := fetched_allRight hmode hrows
  have htested : stage.Tries u t (rows.zipIdx.countP fun _ => true) := by
    refine tries_forM (fun entry v w hstep => ?_) htest
    obtain ⟨_, x, hcheck, hemit⟩ := bind_eq_ok hstep
    have hsame : x = v := by
      unfold checkAt at hcheck
      split at hcheck
      · exact eq_of_check hcheck
      · exact (pure_eq_ok hcheck).2.symm
    subst hsame
    exact tries_emitIf hemit
  have hall : rows.countP (stage.pairs left) = rows.zipIdx.countP fun _ => true := by
    have hpairs : stage.pairs left = fun _ => true := by
      funext right
      simp only [pairs, hmode]
    rw [hpairs, List.countP_true, List.countP_true, List.length_zipIdx]
  exact ⟨u, rows, bill, hfetched, hall ▸ htested⟩

/-- A left row is passed over and counted as such, or its right rows are fetched and tested. -/
theorem joinLeft_eq_ok (h : stage.joinLeft left s = (.ok (), t)) :
    stage.passesOver left = true ∧ stage.Spends s t 0 { nullKeySkips := 1 } ∨
      stage.passesOver left = false ∧ stage.FetchesAndTries left s t := by
  unfold joinLeft at h
  cases hmode : stage.mode with
  | hashProbe =>
      simp only [hmode] at h
      cases hkey : stage.descriptor.leftKey left with
      | none =>
          have hpassed : stage.passesOver left = true := by simp only [passesOver, hmode, hkey]; rfl
          simp only [probeKeyed, hkey] at h
          exact Or.inl ⟨hpassed, spends_count Counters.nullKeySkip_eq_plus h⟩
      | some key =>
          have hkept : stage.passesOver left = false := by simp only [passesOver, hmode, hkey]; rfl
          exact Or.inr ⟨hkept, fetchesAndTries_probeKeyed hkey hmode h⟩
  | fullScan =>
      simp only [hmode] at h
      have hkept : stage.passesOver left = false := by simp only [passesOver, hmode]
      exact Or.inr ⟨hkept, fetchesAndTries_probeAll hmode h⟩

omit [KeyHasher] in
theorem spends_countEmitted {before : Nat}
    (h : stage.countEmitted before s = (.ok (), t)) :
    stage.Spends s t 0 { rowsEmitted := s.emitted.size - before } := by
  obtain ⟨_, u, hget, hcount⟩ := bind_eq_ok h
  obtain ⟨rfl, rfl⟩ := get_eq_ok hget
  split at hcount
  next => exact spends_count (Counters.emitted_eq_plus · _) hcount
  next hnone =>
    obtain ⟨-, rfl⟩ := pure_eq_ok hcount
    rw [Nat.eq_zero_of_not_pos hnone]
    exact spends_zero rfl rfl

/-- How a left row was joined: what became of the slot, how many pairs were tested, and what it
cost to pass over the row or to fetch its right rows. -/
structure Joined (stage : JoinStage) (left : Row) (before after : SharedBuild) (tested : Nat)
    (extra : Tally) : Prop where
  passed : stage.passesOver left = true →
    after = before ∧ tested = 0 ∧ extra = { nullKeySkips := 1 }
  fetched : stage.passesOver left = false → ∃ rows,
    stage.Fetches left before after rows extra ∧ tested = rows.countP (stage.pairs left)

theorem Joined.uncounted {before after : SharedBuild} {tested : Nat} {extra : Tally}
    (h : stage.Joined left before after tested extra) :
    extra.probes = 0 ∧ extra.rowsEmitted = 0 := by
  cases hpassed : stage.passesOver left with
  | true =>
      obtain ⟨-, -, rfl⟩ := h.passed hpassed
      exact ⟨rfl, rfl⟩
  | false =>
      obtain ⟨rows, hways, -⟩ := h.fetched hpassed
      cases hways <;> exact ⟨rfl, rfl⟩

/-- What a successful probe comes to: the rows it emitted, the pairs it rejected, and what else it
has cost beside itself. -/
structure Probed (stage : JoinStage) (left : Row) (s t : ProbeState) (emitted rejected : Nat)
    (extra : Tally) : Prop where
  width : left.length = stage.descriptor.leftArity
  size : t.emitted.size = s.emitted.size + emitted
  counters : t.site.counters = stage.billed s.site.counters
    ({ probes := 1, rowsEmitted := emitted, residualRejections := rejected } + extra)
  joined : stage.Joined left s.site.build t.site.build (emitted + rejected) extra

theorem joined_of_joinLeft (h : stage.joinLeft left s = (.ok (), t)) :
    ∃ emitted rejected extra, t.emitted.size = s.emitted.size + emitted ∧
      t.site.counters =
        stage.billed s.site.counters (extra + { residualRejections := rejected }) ∧
      stage.Joined left s.site.build t.site.build (emitted + rejected) extra := by
  rcases joinLeft_eq_ok h with
    ⟨hpassed, hspent⟩ | ⟨hkept, u, rows, bill, hfetched, emitted, rejected, hpairs, hspent⟩
  · refine ⟨0, 0, _, hspent.emitted, hspent.counters, fun _ => ⟨hspent.build, rfl, rfl⟩, ?_⟩
    intro hkept
    rw [hpassed] at hkept
    cases hkept
  · refine ⟨emitted, rejected, bill, ?_, ?_, fun hpassed => ?_, fun _ => ⟨rows, ?_, hpairs⟩⟩
    · rw [hspent.emitted, hfetched.emitted]
    · rw [hspent.counters, hfetched.counters, billed_add]
    · rw [hkept] at hpassed
      cases hpassed
    · rw [hspent.build]
      exact hfetched.ways

theorem exists_probed (h : stage.probeRow left s = (.ok (), t)) :
    ∃ emitted rejected extra, stage.Probed left s t emitted rejected extra := by
  rw [probeRow_eq] at h
  obtain ⟨_, u, hcheck, hrest⟩ := bind_eq_ok h
  obtain rfl := eq_of_check hcheck
  obtain ⟨_, v, hwidth, hrest⟩ := bind_eq_ok hrest
  obtain ⟨hleft, rfl⟩ := lift_eq_ok hwidth
  obtain ⟨_, w, hprobe, hrest⟩ := bind_eq_ok hrest
  obtain ⟨_, x, hget, hrest⟩ := bind_eq_ok hrest
  obtain ⟨rfl, rfl⟩ := get_eq_ok hget
  obtain ⟨_, y, hjoin, hlast⟩ := bind_eq_ok hrest
  have hprobed := spends_count Counters.probe_eq_plus hprobe
  obtain ⟨emitted, rejected, extra, hemitted, hcounters, hjoined⟩ := joined_of_joinLeft hjoin
  have hcounted : stage.Spends y t 0 { rowsEmitted := y.emitted.size - w.emitted.size } :=
    spends_countEmitted hlast
  refine ⟨emitted, rejected, extra, Row.length_of_expectArity hleft, ?_, ?_, ?_⟩
  · rw [hcounted.emitted, hemitted, hprobed.emitted]
    rfl
  · have hnew : y.emitted.size - w.emitted.size = emitted := by omega
    rw [hcounted.counters, hcounters, hprobed.counters, ← billed_add, ← billed_add, hnew]
    congr 1
    ext <;> simp
    all_goals omega
  · rw [hcounted.build, ← hprobed.build]
    exact hjoined

end

end JoinStage

end JoinEngine
