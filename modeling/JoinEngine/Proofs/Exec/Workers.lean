import JoinEngine.Proofs.Exec.Decided
import JoinEngine.Proofs.Exec.Partitioned

/-!
Workers on a shared chain, one after the other. Where every driving row is decided, it is of no
account which worker joins it: whatever the number of workers, what they gather are the rows of
joining all driving rows in order, or a failure exactly if that fails.
-/

namespace JoinEngine

namespace Run

variable {σ α : Type} {inv : σ → Prop} {work : List α → Run σ (List Row)}
  {outcome : List α → Except JoinError (List Row)}

theorem settles_runWorker (h : ∀ batch, Settles inv (work batch) (outcome batch))
    (batches : List (List α)) :
    Settles inv (runWorker work batches) (batches.flatMapM outcome) := by
  induction batches with
  | nil => exact settles_pure []
  | cons batch rest ih =>
      rw [List.flatMapM_cons]
      exact (h batch).bind fun rows => ih.bind fun others => settles_pure (rows ++ others)

/-- Steps that keep their failures to themselves, one after the other. -/
theorem mapM_run_apply {ι β : Type} {steps : ι → Run σ β} {results : ι → Except JoinError β}
    (h : ∀ i, Settles inv (steps i) (results i)) (items : List ι) {s : σ} (hs : inv s) :
    ∃ t, (items.mapM fun i => (steps i).run : StateM σ _) s = (items.map results, t) ∧ inv t := by
  induction items generalizing s with
  | nil => exact ⟨s, rfl, hs⟩
  | cons i rest ih =>
      obtain ⟨hresult, hinv⟩ := h i s hs
      obtain ⟨t, hrest, ht⟩ := ih hinv
      refine ⟨t, ?_, ht⟩
      have hsplit : ((i :: rest).mapM fun i => (steps i).run : StateM σ _) s =
          ((steps i s).1 :: ((rest.mapM fun i => (steps i).run : StateM σ _) (steps i s).2).1,
            ((rest.mapM fun i => (steps i).run : StateM σ _) (steps i s).2).2) := by
        rw [List.mapM_cons]
        rfl
      rw [hsplit, hrest, hresult, List.map_cons]

/-- Workers give what working on the dealt batches in order gives. -/
theorem settles_runPartitioned (h : ∀ batch, Settles inv (work batch) (outcome batch))
    (parallelism : Nat) (partitions : List (List α)) :
    Settles inv (runPartitioned parallelism work partitions)
      ((deal (workerCount parallelism partitions.length) partitions).flatten.flatMapM
        outcome) := by
  intro s hs
  obtain ⟨t, hresults, ht⟩ := mapM_run_apply (settles_runWorker h)
    (deal (workerCount parallelism partitions.length) partitions) hs
  have hrun : runPartitioned parallelism work partitions s =
      (gather ((deal (workerCount parallelism partitions.length) partitions).map fun hand =>
        hand.flatMapM outcome), t) := by
    unfold runPartitioned
    rw [bind_apply]
    have hlift : ∀ (steps : StateM σ (List (Except JoinError (List Row)))),
        (liftM steps : Run σ _) s = (.ok (steps s).1, (steps s).2) := fun _ => rfl
    rw [hlift, hresults]
    rfl
  rw [hrun, gather_map, ← flatMapM_flatten]
  exact ⟨rfl, ht⟩

end Run

open Run

namespace JoinChain

variable [KeyHasher] {c : JoinChain}

theorem settles_executePartitioned (hconstant : c.Constant) (partitions : List (List Row)) :
    Settles c.AtRest (c.executePartitioned partitions)
      ((deal (workerCount c.parallelism partitions.length) partitions).flatten.flatMapM
        fun rows => rows.flatMapM c.rowOutcome) :=
  (settles_runPartitioned (settles_processAll hconstant) _ partitions).releasing
    fun _ hs => hs.release

omit [KeyHasher] in
/-- The rows of all hands together are the rows of all partitions. -/
theorem flatten_hands_perm (parallelism : Nat) (partitions : List (List Row)) :
    (deal (workerCount parallelism partitions.length) partitions).flatten.flatten.Perm
      partitions.flatten :=
  (flatten_deal_perm (workerCount_pos _ _) partitions).flatten

/-- Workers give the rows that joining in order gives, or fail exactly if that fails. -/
theorem sameRows_executePartitioned (hconstant : c.Constant) {s t : ChainState} (hs : c.AtRest s)
    (ht : c.AtRest t) {partitions : List (List Row)} {rows : List Row}
    (hrows : partitions.flatten.Perm rows) :
    SameRows (c.executePartitioned partitions s).1 (c.execute (rows.map Pull.ofRow) t).1 := by
  rw [(settles_executePartitioned hconstant partitions s hs).1,
    (settles_execute hconstant rows t ht).1, ← flatMapM_flatten]
  exact sameRows_of_perm _ ((flatten_hands_perm _ _).trans hrows)

end JoinChain

end JoinEngine
