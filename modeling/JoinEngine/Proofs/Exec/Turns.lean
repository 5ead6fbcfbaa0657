import Mathlib.Logic.Relation
import JoinEngine.Proofs.Exec.Cache
import JoinEngine.Proofs.Exec.Workers

/-!
Workers on a shared chain, in turn. A worker may take several turns for a driving row: it enters
the chain with the row, joins the left rows of a stage one by one, goes on to the next stage with
what the stage has emitted, and finishes behind the last. Where a left row needs a materialized
side and the slot is empty, the worker waits to build it; of those who wait for one slot the first
builds and the others find its side. Whatever the number of workers and however their turns
interleave, what they gather are the rows of joining all driving rows in order, or a failure
exactly if that fails: every left row is decided, so no turn changes what any worker will come to.
-/

namespace JoinEngine

section

variable {α β : Type} {rel : α → β → Prop} {as : List α} {bs : List β} {a : α} {b : β} {k : Nat}

theorem forall₂_getElem? (h : List.Forall₂ rel as bs) (ha : as[k]? = some a)
    (hb : bs[k]? = some b) : rel a b := by
  obtain ⟨hleft, rfl⟩ := List.getElem?_eq_some_iff.mp ha
  obtain ⟨hright, rfl⟩ := List.getElem?_eq_some_iff.mp hb
  exact h.get hleft hright

theorem forall₂_set (h : List.Forall₂ rel as bs) (ha : as[k]? = some a) (hab : rel a b) :
    List.Forall₂ rel as (bs.set k b) := by
  induction h generalizing k with
  | nil => cases ha
  | cons hfirst hrest ih =>
      cases k with
      | zero =>
          obtain rfl := Option.some.inj ha
          exact .cons hab hrest
      | succ k => exact .cons hfirst (ih ha)

end

namespace JoinStage

variable [KeyHasher] {stage : JoinStage} {left : Row} {s t : ProbeState}

theorem forM_probeRow_cons (left : Row) (rest : List Row) :
    (left :: rest).forM stage.probeRow =
      (stage.probeRow left >>= fun _ => rest.forM stage.probeRow) :=
  rfl

theorem atRest_probeRow (hconstant : stage.right.Constant)
    (hs : stage.AtRest ⟨s.session, s.site⟩) {result : Except JoinError Unit}
    (h : stage.probeRow left s = (result, t)) : stage.AtRest ⟨t.session, t.site⟩ := by
  have ht := (allows_probeRow (probes_restContract hconstant left) s hs).1
  rw [h] at ht
  exact ht

/-- Once its first left row is joined, a stage comes to what it came to before. -/
theorem gives_cons_of_ok (hconstant : stage.right.Constant)
    (hs : stage.AtRest ⟨s.session, s.site⟩) (h : stage.probeRow left s = (.ok (), t))
    (rest : List Row) : stage.gives (left :: rest) s.emitted = stage.gives rest t.emitted := by
  rw [← emittedBy_eq_gives hconstant (left :: rest) hs,
    ← emittedBy_eq_gives hconstant rest (atRest_probeRow hconstant hs h)]
  unfold Probe.emittedBy
  rw [forM_probeRow_cons, Run.bind_apply, h]

theorem gives_cons_of_error (hconstant : stage.right.Constant)
    (hs : stage.AtRest ⟨s.session, s.site⟩) {e : JoinError}
    (h : stage.probeRow left s = (.error e, t)) (rest : List Row) :
    stage.gives (left :: rest) s.emitted = .error e := by
  rw [← emittedBy_eq_gives hconstant (left :: rest) hs]
  unfold Probe.emittedBy
  rw [forM_probeRow_cons, Run.bind_apply, h]
  rfl

/-- A side that was just made is sound. -/
theorem atRest_of_makeSide (hconstant : stage.right.Constant)
    (hs : stage.AtRest ⟨s.session, s.site⟩) {side : BuildSide}
    (h : stage.makeSide s = (.ok side, t)) :
    stage.AtRest ⟨t.session, { t.site with build := ⟨some side⟩ }⟩ := by
  have hprobes := probes_restContract hconstant []
  have hmake := allows_makeSide hprobes s hs
  rw [h] at hmake
  obtain ⟨hrest, hmade, -⟩ := hmake
  obtain ⟨n, rows, hrows, hside⟩ := hmade side rfl
  exact hprobes.filled t n rows side hrows hside hrest

end JoinStage

/-- What a probe at one stage has done to a chain. -/
def ChainState.put (s : ChainState) (position : Nat) (t : ProbeState) : ChainState :=
  ⟨t.session, s.sites.set position t.site⟩

namespace JoinChain

variable [KeyHasher] {c : JoinChain}

section

variable {s : ChainState} {position : Nat} {stage : JoinStage}

theorem AtRest.atStage (h : c.AtRest s) (hstage : c.stages[position]? = some stage) {site : Site}
    (hsite : s.sites[position]? = some site) : stage.AtRest ⟨s.session, site⟩ :=
  ⟨h.1, forall₂_getElem? h.2 hstage hsite⟩

theorem AtRest.put (h : c.AtRest s) (hstage : c.stages[position]? = some stage) {t : ProbeState}
    (ht : stage.AtRest ⟨t.session, t.site⟩) : c.AtRest (s.put position t) :=
  ⟨ht.1, forall₂_set h.2 hstage ht.2⟩

end

/-- A driving row on its way. -/
structure Flight where
  /-- The stage it has come to. -/
  position : Nat
  /-- The left rows which that stage has still to join. -/
  lefts : List Row
  /-- The rows which that stage has emitted. -/
  emitted : Array Row
  /-- Whether the slot was empty when the next left row asked for the side. -/
  waiting : Bool

/-- Where a row comes to from a stage; it is done if the stage lets nothing through. -/
def Flight.next (c : JoinChain) (f : Flight) : Nat :=
  if f.emitted.toList = [] then c.stages.length else f.position + 1

/-- One turn of a worker that has a row on its way, unless the row fails or is done. -/
inductive Flies (c : JoinChain) : Flight × ChainState → Flight × ChainState → Prop where
  | look {f : Flight} {s : ChainState} {stage : JoinStage} {site : Site} {left : Row}
      {rest : List Row} (hstage : c.stages[f.position]? = some stage)
      (hsite : s.sites[f.position]? = some site) (hlefts : f.lefts = left :: rest)
      (hcheck : s.session.check = .ok ()) (hwidth : left.length = stage.descriptor.leftArity)
      (hneeds : stage.NeedsSide left) (hempty : site.build.side = none) :
      Flies c (f, s) ({ f with waiting := true }, s)
  | found {f : Flight} {s : ChainState} {site : Site} {side : BuildSide}
      (hsite : s.sites[f.position]? = some site) (hwaiting : f.waiting = true)
      (hslot : site.build.side = some side) : Flies c (f, s) ({ f with waiting := false }, s)
  /-- The side is built and written; the left row is joined in a later turn. -/
  | build {f : Flight} {s : ChainState} {stage : JoinStage} {site : Site} {side : BuildSide}
      {t : ProbeState} (hstage : c.stages[f.position]? = some stage)
      (hsite : s.sites[f.position]? = some site) (hwaiting : f.waiting = true)
      (hempty : site.build.side = none)
      (hmake : stage.makeSide ⟨s.session, site, f.emitted⟩ = (.ok side, t)) :
      Flies c (f, s) ({ f with waiting := false },
        s.put f.position { t with site := { t.site with build := ⟨some side⟩ } })
  /-- If the slot is still empty, the side is built in the same turn. -/
  | join {f : Flight} {s : ChainState} {stage : JoinStage} {site : Site} {left : Row}
      {rest : List Row} {t : ProbeState} (hstage : c.stages[f.position]? = some stage)
      (hsite : s.sites[f.position]? = some site) (hlefts : f.lefts = left :: rest)
      (hjoin : stage.probeRow left ⟨s.session, site, f.emitted⟩ = (.ok (), t)) :
      Flies c (f, s) (⟨f.position, rest, t.emitted, false⟩, s.put f.position t)
  | pass {f : Flight} {s : ChainState} {stage : JoinStage}
      (hstage : c.stages[f.position]? = some stage) (hlefts : f.lefts = []) :
      Flies c (f, s) (⟨f.next c, f.emitted.toList, #[], false⟩, s)

/-- A worker under way: the rows it still has to join, what it has come to, and the row it is
joining. -/
structure Worker where
  todo : List Row
  result : Except JoinError (List Row) := .ok []
  flight : Option Flight := none

/-- A worker with nothing to do: its rows are joined, or one of them failed. -/
def Worker.Idle (w : Worker) : Prop :=
  w.flight = none ∧ (w.todo = [] ∨ ∃ e, w.result = .error e)

/-- A turn of one worker on the shared chain. -/
inductive Turn (c : JoinChain) : List Worker × ChainState → List Worker × ChainState → Prop where
  /-- A whole row in one turn. A row that the chain does not take fails this way. -/
  | row (before after : List Worker) (row : Row) (rest rows : List Row) (s : ChainState) :
      Turn c (before ++ ⟨row :: rest, .ok rows, none⟩ :: after, s)
        (before ++ ⟨rest, bothRows (.ok rows) (c.processRow row s).1, none⟩ :: after,
          (c.processRow row s).2)
  | enter (before after : List Worker) {row : Row} {rest rows : List Row} {s : ChainState}
      (hcheck : s.session.check = .ok ()) (hwidth : row.length = c.baseArity) :
      Turn c (before ++ ⟨row :: rest, .ok rows, none⟩ :: after, s)
        (before ++ ⟨rest, .ok rows, some ⟨0, [row], #[], false⟩⟩ :: after, s)
  | fly (before after : List Worker) {todo rows : List Row} {f g : Flight} {s t : ChainState}
      (hfly : c.Flies (f, s) (g, t)) :
      Turn c (before ++ ⟨todo, .ok rows, some f⟩ :: after, s)
        (before ++ ⟨todo, .ok rows, some g⟩ :: after, t)
  | fail (before after : List Worker) {todo rows : List Row} {f : Flight} {s : ChainState}
      {stage : JoinStage} {site : Site} {left : Row} {rest : List Row} {e : JoinError}
      {t : ProbeState} (hstage : c.stages[f.position]? = some stage)
      (hsite : s.sites[f.position]? = some site) (hlefts : f.lefts = left :: rest)
      (hjoin : stage.probeRow left ⟨s.session, site, f.emitted⟩ = (.error e, t)) :
      Turn c (before ++ ⟨todo, .ok rows, some f⟩ :: after, s)
        (before ++ ⟨todo, .error e, none⟩ :: after, s.put f.position t)
  | finish (before after : List Worker) {todo rows : List Row} {f : Flight} (s : ChainState)
      (hend : f.position = c.stages.length) :
      Turn c (before ++ ⟨todo, .ok rows, some f⟩ :: after, s)
        (before ++ ⟨todo, bothRows (.ok rows) (c.finishRows f.lefts s).1, none⟩ :: after,
          (c.finishRows f.lefts s).2)

def newWorkers (parallelism : Nat) (partitions : List (List Row)) : List Worker :=
  (deal (workerCount parallelism partitions.length) partitions).map fun hand =>
    { todo := hand.flatten }

/-- What a row on its way will come to. -/
def arrives (c : JoinChain) (f : Flight) : Except JoinError (List Row) :=
  passed (c.stages.drop f.position) f.lefts f.emitted >>= c.finished

/-- What a worker will come to. -/
def comesTo (c : JoinChain) (w : Worker) : Except JoinError (List Row) :=
  bothRows w.result (bothRows (w.flight.elim (.ok []) c.arrives) (w.todo.flatMapM c.rowOutcome))

theorem comesTo_free (todo : List Row) (result : Except JoinError (List Row)) :
    c.comesTo ⟨todo, result, none⟩ = bothRows result (todo.flatMapM c.rowOutcome) :=
  congrArg (bothRows result) (nil_bothRows _)

theorem comesTo_flying (todo : List Row) (result : Except JoinError (List Row)) (f : Flight) :
    c.comesTo ⟨todo, result, some f⟩ =
      bothRows result (bothRows (c.arrives f) (todo.flatMapM c.rowOutcome)) :=
  rfl

section

variable {f g : Flight} {s t : ChainState} {stage : JoinStage}

omit [KeyHasher] in
theorem drop_of_stage {position : Nat} (h : c.stages[position]? = some stage) :
    c.stages.drop position = stage :: c.stages.drop (position + 1) := by
  rw [List.drop_eq_getElem?_toList_append, h]
  rfl

/-- What a row will come to hangs on what the stage it is at will give. -/
theorem arrives_congr (hstage : c.stages[f.position]? = some stage)
    (hposition : g.position = f.position)
    (hgives : stage.gives g.lefts g.emitted = stage.gives f.lefts f.emitted) :
    c.arrives g = c.arrives f := by
  unfold arrives
  rw [hposition, drop_of_stage hstage, passed, passed, hgives]

theorem arrives_of_error {e : JoinError} (hstage : c.stages[f.position]? = some stage)
    (hgives : stage.gives f.lefts f.emitted = .error e) : c.arrives f = .error e := by
  unfold arrives
  rw [drop_of_stage hstage, passed, hgives]
  rfl

theorem arrives_pass (hstage : c.stages[f.position]? = some stage) (hlefts : f.lefts = []) :
    c.arrives ⟨f.next c, f.emitted.toList, #[], false⟩ = c.arrives f := by
  have hgives : stage.gives f.lefts f.emitted = .ok f.emitted.toList := by
    rw [hlefts]
    rfl
  unfold arrives Flight.next
  rw [drop_of_stage hstage, passed, hgives]
  split
  next hnothing =>
    rw [List.drop_length, passed, hnothing]
    rfl
  next hsomething =>
    cases hrows : f.emitted.toList with
    | nil => exact absurd hrows hsomething
    | cons row rows => rfl

/-- A row that enters the chain is at the first stage, with itself as the left row. -/
theorem arrives_enter {row : Row} (hwidth : row.length = c.baseArity) :
    c.arrives ⟨0, [row], #[], false⟩ = c.rowOutcome row := by
  unfold rowOutcome Row.expectArity
  rw [if_pos hwidth]
  rfl

theorem arrives_end (hend : f.position = c.stages.length) : c.arrives f = c.finished f.lefts := by
  unfold arrives
  rw [hend, List.drop_length, passed]
  rfl

/-- No turn changes what a row on its way will come to. -/
theorem Flies.arrives (hconstant : c.Constant) (h : c.Flies (f, s) (g, t)) (hs : c.AtRest s) :
    c.AtRest t ∧ c.arrives g = c.arrives f := by
  cases h with
  | look => exact ⟨hs, rfl⟩
  | found => exact ⟨hs, rfl⟩
  | build hstage hsite _ _ hmake =>
      have hkept := hconstant _ (List.mem_of_getElem? hstage)
      have hmade := JoinStage.atRest_of_makeSide hkept (hs.atStage hstage hsite) hmake
      refine ⟨hs.put hstage ?_, rfl⟩
      exact hmade
  | join hstage hsite hlefts hjoin =>
      have hkept := hconstant _ (List.mem_of_getElem? hstage)
      have hbefore := hs.atStage hstage hsite
      have hrest := JoinStage.atRest_probeRow hkept hbefore hjoin
      refine ⟨hs.put hstage hrest, arrives_congr hstage rfl ?_⟩
      rw [hlefts]
      exact (JoinStage.gives_cons_of_ok hkept hbefore hjoin _).symm
  | pass hstage hlefts => exact ⟨hs, arrives_pass hstage hlefts⟩

end

/-- No turn changes what any worker will come to. -/
theorem Turn.comesTo (hconstant : c.Constant) {workers others : List Worker} {s t : ChainState}
    (h : Turn c (workers, s) (others, t)) (hs : c.AtRest s) :
    c.AtRest t ∧ others.map c.comesTo = workers.map c.comesTo := by
  have hone {before after : List Worker} {w v : Worker} (hsame : c.comesTo v = c.comesTo w) :
      (before ++ v :: after).map c.comesTo = (before ++ w :: after).map c.comesTo := by
    rw [List.map_append, List.map_append, List.map_cons, List.map_cons, hsame]
  cases h with
  | row before after row rest rows =>
      obtain ⟨hresult, hrest⟩ := settles_processRow hconstant row s hs
      refine ⟨hrest, hone ?_⟩
      rw [hresult, comesTo_free, comesTo_free, flatMapM_cons_eq_both, bothRows_assoc]
  | enter before after hcheck hwidth =>
      refine ⟨hs, hone ?_⟩
      rw [comesTo_free, comesTo_flying, arrives_enter hwidth, flatMapM_cons_eq_both]
  | fly before after hfly =>
      obtain ⟨hrest, hsame⟩ := hfly.arrives hconstant hs
      refine ⟨hrest, hone ?_⟩
      rw [comesTo_flying, comesTo_flying, hsame]
  | fail before after hstage hsite hlefts hjoin =>
      have hkept := hconstant _ (List.mem_of_getElem? hstage)
      have hbefore := hs.atStage hstage hsite
      have hgives := JoinStage.gives_cons_of_error hkept hbefore hjoin
      refine ⟨hs.put hstage (JoinStage.atRest_probeRow hkept hbefore hjoin), hone ?_⟩
      rw [comesTo_free, comesTo_flying, arrives_of_error hstage (hlefts ▸ hgives _)]
      rfl
  | finish before after _ hend =>
      obtain ⟨hresult, hrest⟩ := settles_finishRows (c := c) _ s hs
      refine ⟨hrest, hone ?_⟩
      rw [hresult, comesTo_free, comesTo_flying, arrives_end hend, bothRows_assoc]

theorem comesTo_of_turns (hconstant : c.Constant) {start finish : List Worker × ChainState}
    (h : Relation.ReflTransGen c.Turn start finish) (hstart : c.AtRest start.2) :
    c.AtRest finish.2 ∧ finish.1.map c.comesTo = start.1.map c.comesTo := by
  induction h with
  | refl => exact ⟨hstart, rfl⟩
  | tail _ hturn ih =>
      obtain ⟨hrest, hsame⟩ := ih
      obtain ⟨hafter, hkept⟩ := hturn.comesTo hconstant hrest
      exact ⟨hafter, hkept.trans hsame⟩

theorem comesTo_of_idle {w : Worker} (h : w.Idle) : c.comesTo w = w.result := by
  obtain ⟨todo, result, flight⟩ := w
  obtain ⟨rfl, rfl | ⟨e, rfl⟩⟩ := h
  · exact (comesTo_free [] result).trans (bothRows_nil result)
  · rfl

/-- However the turns of the workers interleave, once all are idle they have the rows that
joining in order gives, or one has failed exactly if that fails. -/
theorem sameRows_of_turns (hconstant : c.Constant) {s t u : ChainState} (hs : c.AtRest s)
    (hu : c.AtRest u) {parallelism : Nat} {partitions : List (List Row)} {workers : List Worker}
    (hturns : Relation.ReflTransGen c.Turn (newWorkers parallelism partitions, s) (workers, t))
    (hidle : ∀ w ∈ workers, w.Idle) :
    SameRows (gather (workers.map Worker.result))
      (c.execute (partitions.flatten.map Pull.ofRow) u).1 := by
  obtain ⟨-, hsame⟩ := comesTo_of_turns hconstant hturns hs
  have hresults : workers.map Worker.result = workers.map c.comesTo :=
    List.map_congr_left fun w member => (comesTo_of_idle (hidle w member)).symm
  have hhands : (newWorkers parallelism partitions).map c.comesTo =
      (deal (workerCount parallelism partitions.length) partitions).map fun hand =>
        hand.flatMapM fun rows => rows.flatMapM c.rowOutcome := by
    unfold newWorkers
    rw [List.map_map]
    refine List.map_congr_left fun hand _ => ?_
    rw [← flatMapM_flatten]
    exact (comesTo_free _ _).trans (nil_bothRows _)
  rw [hresults, hsame, hhands, gather_map, ← flatMapM_flatten, ← flatMapM_flatten,
    (settles_execute hconstant _ u hu).1]
  exact sameRows_of_perm _ (flatten_hands_perm _ _)

end JoinChain

end JoinEngine
