import JoinEngine.Proofs.Exec.Slot

/-!
What joining one left row comes to, as a function of the right rows alone. On a relation that
always gives the same answers, and while the query is live, a probe's outcome does not depend on
the state it starts in: a side already in the slot is the side that would be made now. The
theorem `probeRow_emits` replaces the probe by its outcome; nothing after it looks at states.
-/

namespace JoinEngine

theorem flatMapM_zipIdx {α β ε : Type} (f : α → Except ε (List β)) (items : List α) (n : Nat) :
    (items.zipIdx n).flatMapM (fun entry => f entry.1) = items.flatMapM f := by
  induction items generalizing n with
  | nil => rfl
  | cons a rest ih => rw [List.zipIdx_cons, List.flatMapM_cons, List.flatMapM_cons, ih]

/-- The query is not cancelled, and no evaluation to come will find it cancelled. -/
def Session.Live (s : Session) : Prop :=
  s.cancelled = false ∧ ∀ n, s.cancelAt = some n → n ≤ s.evaluations

theorem Session.check_eq_ok {s : Session} (h : s.cancelled = false) : s.check = .ok () := by
  simp [check, h]

theorem Session.check_eq_error {s : Session} (h : s.cancelled = true) :
    s.check = .error .cancelled := by
  simp [check, h]

theorem Session.Live.check {s : Session} (h : s.Live) : s.check = .ok () :=
  Session.check_eq_ok h.1

theorem Session.Live.countEvaluation {s : Session} (h : s.Live) : s.countEvaluation.Live := by
  obtain ⟨hcancelled, hcancelAt⟩ := h
  constructor
  · have hnow : s.cancelAt ≠ some (s.evaluations + 1) := by
      intro heq
      have := hcancelAt _ heq
      omega
    simp [Session.countEvaluation, hcancelled, hnow]
  · intro n hn
    have := hcancelAt n hn
    simp only [Session.countEvaluation]
    omega

namespace JoinStage

variable [KeyHasher] {stage : JoinStage} {rows : List Row}
  {found : List Value → Except JoinError (List Row)}

def tested (predicate : Option Expr) (left right : Row) : Except JoinError (List Row) :=
  match predicate with
  | none => .ok [left ++ right]
  | some p => (p.holds (left ++ right)).map fun t => if t.isTrue then [left ++ right] else []

def testedEqual (stage : JoinStage) (left right : Row) : Except JoinError (List Row) :=
  if stage.keysMatch left right then tested stage.descriptor.residual left right else .ok []

def reached (stage : JoinStage) (rows : List Row)
    (found : List Value → Except JoinError (List Row)) (left : Row) (key : List Value) :
    Except JoinError (List Row) :=
  match stage.access, stage.right with
  | .lookup, .partitioned _ => found (stage.lookupColumns.map fun column => left.getD column .null)
  | .lookup, right => .error (.plan (.noLookups right.name))
  | .rescan, _ => .ok rows
  | .materialized, _ => (stage.sideOf rows).map fun side =>
      (side.candidates (hashKey key)).map side.arena.row

def scanned (stage : JoinStage) (rows : List Row) : Except JoinError (List Row) :=
  match stage.access with
  | .rescan => .ok rows
  | _ => (stage.sideOf rows).map fun side => side.arena.rows

def joinKeyed (stage : JoinStage) (rows : List Row)
    (found : List Value → Except JoinError (List Row)) (left : Row) :
    Except JoinError (List Row) :=
  match stage.descriptor.leftKey left with
  | none => .ok []
  | some key => stage.reached rows found left key >>= List.flatMapM (stage.testedEqual left)

def joinAll (stage : JoinStage) (rows : List Row) (left : Row) : Except JoinError (List Row) :=
  stage.scanned rows >>= List.flatMapM (tested (some stage.descriptor.condition) left)

/-- The rows that joining a left row comes to. -/
def joinRow (stage : JoinStage) (rows : List Row)
    (found : List Value → Except JoinError (List Row)) (left : Row) :
    Except JoinError (List Row) :=
  match stage.mode with
  | .hashProbe => stage.joinKeyed rows found left
  | .fullScan => stage.joinAll rows left

section

variable {left : Row} {key : List Value}

theorem reached_lookup {source : KeyedSource} (haccess : stage.access = .lookup)
    (hright : stage.right = .partitioned source) :
    stage.reached rows found left key =
      found (stage.lookupColumns.map fun column => left.getD column .null) := by
  simp only [reached, haccess, hright]

theorem reached_unaskable (haccess : stage.access = .lookup)
    (hright : ∀ source, stage.right ≠ .partitioned source) :
    stage.reached rows found left key = .error (.plan (.noLookups stage.right.name)) := by
  cases hkind : stage.right with
  | partitioned source => exact absurd hkind (hright source)
  | bounded source | rescan source => simp only [reached, haccess, hkind]

theorem reached_rescan (haccess : stage.access = .rescan) :
    stage.reached rows found left key = .ok rows := by
  simp only [reached, haccess]

theorem reached_side (haccess : stage.access = .materialized) :
    stage.reached rows found left key = (stage.sideOf rows).map fun side =>
      (side.candidates (hashKey key)).map side.arena.row := by
  simp only [reached, haccess]

end

/-- The invariant of a running stage: the query is live, and a side in the slot is the one that
the relation's rows make. -/
def Ready (stage : JoinStage) (rows : List Row) (session : Session) (site : Site) : Prop :=
  session.Live ∧ stage.SlotHolds rows site

open Probe

theorem returns_check : Returns (stage.Ready rows) check (.ok ()) := by
  apply returns_get
  intro s hs
  rw [hs.1.check]
  exact returns_lift _

theorem returns_count (change : Counters → Counters) :
    Returns (stage.Ready rows) (stage.count change) (.ok ()) := by
  apply returns_modify
  · intro s hs
    split <;> exact hs
  · intro s
    split <;> rfl

theorem returns_holds (predicate : Expr) (row : Row) :
    Returns (stage.Ready rows) (Probe.holds predicate row) (predicate.holds row) := by
  have hcount : Returns (stage.Ready rows)
      (modify fun s => { s with session := s.session.countEvaluation }) (.ok ()) :=
    returns_modify (fun s hs => ⟨hs.1.countEvaluation, hs.2⟩) fun _ => rfl
  exact hcount.bind fun _ _ => returns_lift _

theorem emits_emitIf (predicate : Option Expr) (left right : Row) :
    Emits (stage.Ready rows) (stage.emitIf predicate left right) (tested predicate left right) := by
  cases predicate with
  | none => exact emits_emit _
  | some p =>
      have houtcome : tested (some p) left right = p.holds (left ++ right) >>= fun t =>
          .ok (if t.isTrue then [left ++ right] else []) := by
        simp only [tested]
        cases p.holds (left ++ right) <;> rfl
      rw [houtcome]
      apply (returns_holds p (left ++ right)).bind_emits
      intro t _
      cases t.isTrue with
      | true => exact emits_emit _
      | false => exact (returns_count _).emits

theorem emits_emitIfEqual (left right : Row) :
    Emits (stage.Ready rows) (stage.emitIfEqual left right) (stage.testedEqual left right) := by
  unfold emitIfEqual testedEqual
  cases stage.keysMatch left right with
  | true => exact emits_emitIf _ left right
  | false => exact (returns_pure ()).emits

theorem returns_scanRight (hsteady : stage.right.Steady rows found) :
    Returns (stage.Ready rows) stage.scanRight (.ok rows) := by
  apply (returns_count Counters.scan).followed
  apply returns_get
  intro s _
  refine Returns.followed (returns_modify (fun t ht => ?_) fun t => rfl) ?_
  · exact ht
  · rw [hsteady.scan]
    exact returns_lift _

theorem returns_lookUp {source : KeyedSource} {key : List Value}
    {answer : Except JoinError (List Row)} (hlookup : ∀ n, source.lookup n key = answer) :
    Returns (stage.Ready rows) (stage.lookUp source key) answer := by
  apply (returns_count Counters.lookup).followed
  apply returns_get
  intro s _
  refine Returns.followed (returns_modify (fun t ht => ?_) fun t => rfl) ?_
  · exact ht
  · rw [hlookup]
    exact returns_lift _

theorem returns_expectRight {row : Row} (h : row.length = stage.descriptor.rightArity) :
    Returns (stage.Ready rows) (liftM (stage.expectRight row) : Probe Unit) (.ok ()) := by
  unfold expectRight Row.expectArity
  rw [if_pos h]
  exact returns_lift _

theorem returns_rescan (hsteady : stage.right.Steady rows found)
    (harity : stage.right.arity = stage.descriptor.rightArity) :
    Returns (stage.Ready rows) stage.rescan (.ok rows) := by
  apply (returns_scanRight hsteady).followed
  refine Returns.followed (returns_forM fun row member => ?_) (returns_pure rows)
  exact returns_expectRight ((hsteady.arities row member).trans harity)

theorem returns_makeSide (hsteady : stage.right.Steady rows found) :
    Returns (stage.Ready rows) stage.makeSide (stage.sideOf rows) := by
  apply (returns_scanRight hsteady).followed
  have hside : stage.sideOf rows = (stage.sideOf rows >>= fun side => .ok side) := by
    cases stage.sideOf rows <;> rfl
  rw [hside]
  apply (returns_lift (stage.sideOf rows)).bind
  intro side _
  exact (returns_count (Counters.build side.size)).followed (returns_pure side)

/-- The side a probe gets is the one the rows make, whether the slot held it or not. -/
theorem returns_side (hsteady : stage.right.Steady rows found) :
    Returns (stage.Ready rows) stage.side (stage.sideOf rows) := by
  intro s hs
  rw [side_apply]
  cases hslot : s.site.build.side with
  | some side => exact ⟨s, by rw [hs.2 side hslot], hs, rfl⟩
  | none =>
      obtain ⟨t, hrun, ht, hemitted⟩ := returns_makeSide hsteady s hs
      rw [hrun]
      cases hside : stage.sideOf rows with
      | error e => exact ⟨_, rfl, ⟨ht.1, slotHolds_of_empty rfl⟩, hemitted⟩
      | ok side =>
          refine ⟨_, rfl, ⟨ht.1, fun other hother => ?_⟩, hemitted⟩
          obtain rfl := Option.some.inj hother
          exact hside

theorem emits_probeKeyed (hsteady : stage.right.Steady rows found)
    (harity : stage.right.arity = stage.descriptor.rightArity) (left : Row) :
    Emits (stage.Ready rows) (stage.probeKeyed left) (stage.joinKeyed rows found left) := by
  unfold probeKeyed joinKeyed
  cases stage.descriptor.leftKey left with
  | none => exact (returns_count Counters.nullKeySkip).emits
  | some key =>
      simp only
      split
      next source haccess hright =>
        rw [reached_lookup haccess hright]
        apply returns_check.followed_emits
        apply (returns_lookUp (hsteady.lookup source hright · _)).bind_emits
        intro answer hanswer
        apply emits_forM
        intro right member
        have hwidth := (hsteady.found_arities _ answer hanswer right member).trans harity
        exact (returns_expectRight hwidth).followed_emits (emits_emitIfEqual left right)
      next haccess hnone =>
        rw [reached_unaskable haccess hnone]
        exact emits_throw _
      next haccess =>
        rw [reached_rescan haccess]
        apply (returns_rescan hsteady harity).followed_emits
        exact emits_forM fun right _ => emits_emitIfEqual left right
      next haccess =>
        rw [reached_side haccess]
        have hcandidates : ((stage.sideOf rows).map fun side =>
            (side.candidates (hashKey key)).map side.arena.row) >>=
              List.flatMapM (stage.testedEqual left) =
            (stage.sideOf rows >>= fun side =>
              ((side.candidates (hashKey key)).map side.arena.row).flatMapM
                (stage.testedEqual left)) := by
          cases stage.sideOf rows <;> rfl
        rw [hcandidates]
        apply (returns_side hsteady).bind_emits
        intro side _
        exact emits_forM fun right _ => emits_emitIfEqual left right

theorem returns_allRight (hsteady : stage.right.Steady rows found)
    (harity : stage.right.arity = stage.descriptor.rightArity) :
    Returns (stage.Ready rows) stage.allRight (stage.scanned rows) := by
  have hrows : ((stage.sideOf rows).map fun side => side.arena.rows) =
      (stage.sideOf rows >>= fun side => .ok side.arena.rows) := by
    cases stage.sideOf rows <;> rfl
  unfold allRight scanned
  rw [hrows]
  cases stage.access with
  | rescan => exact returns_rescan hsteady harity
  | materialized | lookup =>
      exact (returns_side hsteady).bind fun side _ => returns_pure side.arena.rows

theorem returns_checkAt (position : Nat) :
    Returns (stage.Ready rows) (checkAt position) (.ok ()) := by
  unfold checkAt
  split
  · exact returns_check
  · exact returns_pure ()

theorem emits_probeAll (hsteady : stage.right.Steady rows found)
    (harity : stage.right.arity = stage.descriptor.rightArity) (left : Row) :
    Emits (stage.Ready rows) (stage.probeAll left) (stage.joinAll rows left) := by
  rw [probeAll_eq]
  apply (returns_allRight hsteady harity).bind_emits
  intro all _
  rw [← flatMapM_zipIdx _ all 0]
  apply emits_forM
  intro entry _
  exact (returns_checkAt entry.2).followed_emits (emits_emitIf _ left entry.1)

/-- While the query is live, probing with a row of the left arity emits what joining the row
comes to. -/
theorem probeRow_emits (hsteady : stage.right.Steady rows found)
    (harity : stage.right.arity = stage.descriptor.rightArity) {left : Row}
    (hleft : left.length = stage.descriptor.leftArity) :
    Emits (stage.Ready rows) (stage.probeRow left) (stage.joinRow rows found left) := by
  rw [probeRow_eq]
  apply returns_check.followed_emits
  have hwidth : (left.expectArity stage.descriptor.leftArity).mapError JoinError.shape =
      .ok () := by
    unfold Row.expectArity
    rw [if_pos hleft]
    rfl
  rw [hwidth]
  apply (returns_lift (.ok ())).followed_emits
  apply (returns_count Counters.probe).followed_emits
  apply emits_get
  intro s
  have hjoin : Emits (stage.Ready rows) (stage.joinLeft left) (stage.joinRow rows found left) := by
    unfold joinLeft joinRow
    cases stage.mode with
    | hashProbe => exact emits_probeKeyed hsteady harity left
    | fullScan => exact emits_probeAll hsteady harity left
  apply hjoin.then_returns
  apply returns_get
  intro t _
  split
  · exact returns_count _
  · exact returns_pure ()

end JoinStage

end JoinEngine
