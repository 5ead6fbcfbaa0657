import JoinEngine.Exec.StageRun

/-!
A small logic for steps that may fail. `Run.Ends` says what steps keep of an invariant however
they end, what they return and what they may fail with. `Probe.Returns` and `Probe.Emits` say in
full what the steps of a probe come to where that does not depend on the state: a value and no
rows, or rows. Steps done one after the other come to the outcomes put one after the other.
`Probe.Appends` says less, but of every state: which rows the steps append if they succeed, some
of the first of which they append if they fail.
-/

namespace JoinEngine

namespace Run

variable {σ α β : Type}

theorem bind_apply (first : Run σ α) (next : α → Run σ β) (s : σ) :
    (first >>= next) s =
      match first s with
      | (.ok a, t) => next a t
      | (.error e, t) => (.error e, t) := by
  change (match first s with | (r, t) => ExceptT.bindCont next r t) = _
  cases first s with
  | mk r t => cases r <;> rfl

theorem pure_eq_ok {s t : σ} {a b : α} (h : (pure a : Run σ α) s = (.ok b, t)) :
    a = b ∧ s = t := by
  obtain ⟨hvalue, hstate⟩ := Prod.mk.inj h
  exact ⟨Except.ok.inj hvalue, hstate⟩

theorem lift_eq_ok {outcome : Except JoinError α} {s t : σ} {a : α}
    (h : (liftM outcome : Run σ α) s = (.ok a, t)) : outcome = .ok a ∧ s = t :=
  Prod.mk.inj h

theorem get_eq_ok {s t a : σ} (h : (get : Run σ σ) s = (.ok a, t)) : s = a ∧ s = t :=
  pure_eq_ok h

/-- Steps in turn succeed only if each does. -/
theorem bind_eq_ok {first : Run σ α} {next : α → Run σ β} {s u : σ} {b : β}
    (h : (first >>= next) s = (.ok b, u)) :
    ∃ a t, first s = (.ok a, t) ∧ next a t = (.ok b, u) := by
  rw [bind_apply] at h
  cases hfirst : first s with
  | mk result t =>
      rw [hfirst] at h
      cases result with
      | error e => cases h
      | ok a => exact ⟨a, t, rfl, h⟩

theorem releasingOnCancel_of_cancelled {release : σ → σ} {steps : Run σ α} {s t : σ}
    (h : steps s = (.error .cancelled, t)) :
    releasingOnCancel release steps s = (.error .cancelled, release t) := by
  unfold releasingOnCancel
  rw [h]

theorem releasingOnCancel_of_ne {release : σ → σ} {steps : Run σ α} {s t : σ}
    {result : Except JoinError α} (h : steps s = (result, t))
    (hresult : result ≠ .error .cancelled) : releasingOnCancel release steps s = (result, t) := by
  unfold releasingOnCancel
  rw [h]
  split
  next heq => exact absurd (Prod.mk.inj heq).1 hresult
  next => rfl

/-- Steps that succeed have not been cancelled at their end. -/
theorem releasingOnCancel_eq_ok {release : σ → σ} {steps : Run σ α} {s t : σ} {a : α}
    (h : releasingOnCancel release steps s = (.ok a, t)) : steps s = (.ok a, t) := by
  unfold releasingOnCancel at h
  split at h
  · cases h
  · exact h

/-- From states with the invariant the steps come to states with the invariant; what they return
has a property, and what they fail with is one of some errors. -/
def Ends (inv : σ → Prop) (errs : JoinError → Prop) (steps : Run σ α) (post : α → Prop) : Prop :=
  ∀ s, inv s → inv (steps s).2 ∧ (∀ a, (steps s).1 = .ok a → post a) ∧
    ∀ e, (steps s).1 = .error e → errs e

section

variable {inv : σ → Prop} {errs : JoinError → Prop} {post : α → Prop} {last : β → Prop}

theorem ends_pure {a : α} (h : post a) : Ends inv errs (pure a) post := by
  intro s hs
  refine ⟨hs, fun b hb => ?_, fun e he => nomatch he⟩
  obtain rfl := Except.ok.inj hb
  exact h

theorem ends_lift {outcome : Except JoinError α} (hok : ∀ a, outcome = .ok a → post a)
    (herror : ∀ e, outcome = .error e → errs e) : Ends inv errs (liftM outcome) post :=
  fun _ hs => ⟨hs, hok, herror⟩

theorem ends_throw {e : JoinError} (h : errs e) : Ends inv errs (throw e) post := by
  intro s hs
  refine ⟨hs, fun _ ha => (nomatch ha), fun f hf => ?_⟩
  obtain rfl := Except.error.inj hf
  exact h

theorem ends_modify {change : σ → σ} (h : ∀ s, inv s → inv (change s)) :
    Ends inv errs (modify change) fun _ => True :=
  fun s hs => ⟨h s hs, fun _ _ => trivial, fun _ he => nomatch he⟩

theorem ends_get {next : σ → Run σ β} (h : ∀ s, inv s → Ends inv errs (next s) last) :
    Ends inv errs ((get : Run σ σ) >>= next) last :=
  fun s hs => h s hs s hs

theorem Ends.bind {first : Run σ α} {next : α → Run σ β} (hfirst : Ends inv errs first post)
    (hnext : ∀ a, post a → Ends inv errs (next a) last) :
    Ends inv errs (first >>= next) last := by
  intro s hs
  obtain ⟨hinv, hpost, herrs⟩ := hfirst s hs
  rw [bind_apply]
  cases hrun : first s with
  | mk result t =>
      rw [hrun] at hinv hpost herrs
      cases result with
      | error e =>
          refine ⟨hinv, fun b hb => (nomatch hb), fun f hf => ?_⟩
          obtain rfl := Except.error.inj hf
          exact herrs e rfl
      | ok a => exact hnext a (hpost a rfl) t hinv

theorem Ends.imp {steps : Run σ α} {other : α → Prop} (h : Ends inv errs steps post)
    (himp : ∀ a, post a → other a) : Ends inv errs steps other := by
  intro s hs
  obtain ⟨hinv, hpost, herrs⟩ := h s hs
  exact ⟨hinv, fun a ha => himp a (hpost a ha), herrs⟩

/-- From every state the steps come to an end without failing. -/
abbrev Succeeds (steps : Run σ α) : Prop :=
  Ends (fun _ => True) (fun _ => False) steps fun _ => True

theorem Succeeds.eq_ok {steps : Run σ Unit} (h : Succeeds steps) (s : σ) :
    (steps s).1 = .ok () := by
  obtain ⟨-, -, herrs⟩ := h s trivial
  cases hresult : (steps s).1 with
  | error e => exact (herrs e hresult).elim
  | ok _ => rfl

/-- Steps for every item establish what each of them establishes. -/
theorem ends_forM {ι : Type} {holds : ι → Prop} {items : List ι} {steps : ι → Run σ Unit}
    (h : ∀ i ∈ items, Ends inv errs (steps i) fun _ => holds i) :
    Ends inv errs (items.forM steps) fun _ => ∀ i ∈ items, holds i := by
  induction items with
  | nil => exact ends_pure (by simp)
  | cons i rest ih =>
      refine (h i List.mem_cons_self).bind fun _ hi => ?_
      have hrest := ih fun j member => h j (List.mem_cons_of_mem i member)
      exact hrest.imp fun _ hall => List.forall_mem_cons.mpr ⟨hi, hall⟩

theorem Ends.releasing {release : σ → σ} {steps : Run σ α} (h : Ends inv errs steps post)
    (hrelease : ∀ s, inv s → inv (release s)) :
    Ends inv errs (releasingOnCancel release steps) post := by
  intro s hs
  have hends := h s hs
  cases hrun : steps s with
  | mk result t =>
      rw [hrun] at hends
      by_cases hcancelled : result = .error .cancelled
      · subst hcancelled
        rw [releasingOnCancel_of_cancelled hrun]
        exact ⟨hrelease t hends.1, hends.2⟩
      · rw [releasingOnCancel_of_ne hrun hcancelled]
        exact hends

/-- Collecting the rows of a probe, between states without rows. -/
theorem Ends.collect {inv : ProbeState → Prop} {outer : StageState → Prop} {steps : Probe Unit}
    {done : Unit → Prop} {rows : List Row → Prop} (h : Ends inv errs steps done)
    (hstart : ∀ s : StageState, outer s → inv ⟨s.session, s.site, #[]⟩)
    (hend : ∀ t, inv t → outer ⟨t.session, t.site⟩ ∧ rows t.emitted.toList) :
    Ends outer errs (Probe.collect steps) rows := by
  intro s hs
  obtain ⟨hinv, -, herrs⟩ := h ⟨s.session, s.site, #[]⟩ (hstart s hs)
  unfold Probe.collect
  cases hrun : steps ⟨s.session, s.site, #[]⟩ with
  | mk result t =>
      rw [hrun] at hinv herrs
      obtain ⟨houter, hrows⟩ := hend t hinv
      cases result with
      | error e =>
          refine ⟨houter, fun out hout => (nomatch hout), fun f hf => ?_⟩
          obtain rfl := Except.error.inj hf
          exact herrs e rfl
      | ok _ =>
          refine ⟨houter, fun out hout => ?_, fun e he => nomatch he⟩
          obtain rfl := Except.ok.inj hout
          exact hrows

end

end Run

namespace Probe

variable {α β : Type} {inv : Session → Site → Prop}

/-- The steps return the outcome, emit nothing and keep the invariant. -/
def Returns (inv : Session → Site → Prop) (steps : Probe α) (outcome : Except JoinError α) :
    Prop :=
  ∀ s : ProbeState, inv s.session s.site →
    ∃ t, steps s = (outcome, t) ∧ inv t.session t.site ∧ t.emitted = s.emitted

/-- The steps append the rows of the outcome, or fail as it does, and keep the invariant. -/
def Emits (inv : Session → Site → Prop) (steps : Probe Unit)
    (outcome : Except JoinError (List Row)) : Prop :=
  ∀ s : ProbeState, inv s.session s.site →
    ∃ t, steps s = (outcome.map fun _ => (), t) ∧ inv t.session t.site ∧
      ∀ rows, outcome = .ok rows → t.emitted.toList = s.emitted.toList ++ rows

/-- Looking at the token leaves everything as it is. -/
theorem check_apply (s : ProbeState) : check s = (s.session.check, s) :=
  rfl

theorem get_bind_apply (next : ProbeState → Probe β) (s : ProbeState) :
    ((get : Probe ProbeState) >>= next) s = next s s :=
  rfl

/-- Steps on the state alone cannot fail. -/
theorem lift_bind_apply (first : StateM ProbeState α) (next : α → Probe β) (s : ProbeState) :
    ((liftM first : Probe α) >>= next) s = next (first s).1 (first s).2 :=
  rfl

theorem returns_pure (a : α) : Returns inv (pure a) (.ok a) :=
  fun s hs => ⟨s, rfl, hs, rfl⟩

theorem returns_lift (outcome : Except JoinError α) :
    Returns inv (liftM outcome : Probe α) outcome :=
  fun s hs => ⟨s, rfl, hs, rfl⟩

theorem returns_modify {change : ProbeState → ProbeState}
    (hinv : ∀ s, inv s.session s.site → inv (change s).session (change s).site)
    (hemitted : ∀ s, (change s).emitted = s.emitted) :
    Returns inv (modify change : Probe Unit) (.ok ()) :=
  fun s hs => ⟨change s, rfl, hinv s hs, hemitted s⟩

/-- Steps that begin by reading the state may be taken for those with the state read. -/
theorem returns_get {next : ProbeState → Probe α} {outcome : Except JoinError α}
    (h : ∀ s, inv s.session s.site → Returns inv (next s) outcome) :
    Returns inv ((get : Probe ProbeState) >>= next) outcome := by
  intro s hs
  rw [Run.bind_apply]
  exact h s hs s hs

theorem emits_get {next : ProbeState → Probe Unit} {outcome : Except JoinError (List Row)}
    (h : ∀ s, Emits inv (next s) outcome) :
    Emits inv ((get : Probe ProbeState) >>= next) outcome :=
  fun s hs => h s s hs

theorem Returns.bind {first : Probe α} {next : α → Probe β} {outcome : Except JoinError α}
    {rest : α → Except JoinError β} (hfirst : Returns inv first outcome)
    (hnext : ∀ a, outcome = .ok a → Returns inv (next a) (rest a)) :
    Returns inv (first >>= next) (outcome >>= rest) := by
  intro s hs
  obtain ⟨t, hrun, ht, hemitted⟩ := hfirst s hs
  rw [Run.bind_apply, hrun]
  cases outcome with
  | error e => exact ⟨t, rfl, ht, hemitted⟩
  | ok a =>
      obtain ⟨u, hlast, hu, hsame⟩ := hnext a rfl t ht
      exact ⟨u, hlast, hu, hsame.trans hemitted⟩

theorem Returns.bind_emits {first : Probe α} {next : α → Probe Unit}
    {outcome : Except JoinError α} {rest : α → Except JoinError (List Row)}
    (hfirst : Returns inv first outcome)
    (hnext : ∀ a, outcome = .ok a → Emits inv (next a) (rest a)) :
    Emits inv (first >>= next) (outcome >>= rest) := by
  intro s hs
  obtain ⟨t, hrun, ht, hemitted⟩ := hfirst s hs
  rw [Run.bind_apply, hrun]
  cases outcome with
  | error e => exact ⟨t, rfl, ht, fun rows h => nomatch h⟩
  | ok a =>
      obtain ⟨u, hlast, hu, hrows⟩ := hnext a rfl t ht
      refine ⟨u, hlast, hu, fun rows h => ?_⟩
      rw [hrows rows h, hemitted]

/-- After steps that succeed, only what follows decides. -/
theorem Returns.followed {first : Probe α} {next : α → Probe β} {a : α}
    {outcome : Except JoinError β} (hfirst : Returns inv first (.ok a))
    (hnext : Returns inv (next a) outcome) : Returns inv (first >>= next) outcome := by
  have hboth : Returns inv (first >>= next) (Except.ok a >>= fun _ => outcome) := by
    apply hfirst.bind
    intro b hb
    obtain rfl := Except.ok.inj hb
    exact hnext
  exact hboth

theorem Returns.followed_emits {first : Probe α} {next : α → Probe Unit} {a : α}
    {outcome : Except JoinError (List Row)} (hfirst : Returns inv first (.ok a))
    (hnext : Emits inv (next a) outcome) : Emits inv (first >>= next) outcome := by
  have hboth : Emits inv (first >>= next) (Except.ok a >>= fun _ => outcome) := by
    apply hfirst.bind_emits
    intro b hb
    obtain rfl := Except.ok.inj hb
    exact hnext
  exact hboth

/-- Steps that emit nothing emit no rows. -/
theorem Returns.emits {steps : Probe Unit} {outcome : Except JoinError Unit}
    (h : Returns inv steps outcome) : Emits inv steps (outcome.map fun _ => []) := by
  intro s hs
  obtain ⟨t, hrun, ht, hemitted⟩ := h s hs
  refine ⟨t, ?_, ht, ?_⟩
  · cases outcome <;> exact hrun
  · intro rows hrows
    cases outcome with
    | error e => cases hrows
    | ok u =>
        obtain rfl := Except.ok.inj hrows
        simp [hemitted]

theorem emits_emit (row : Row) : Emits inv (emit row) (.ok [row]) := by
  intro s hs
  refine ⟨{ s with emitted := s.emitted.push row }, rfl, hs, ?_⟩
  intro rows h
  obtain rfl := Except.ok.inj h
  simp

theorem emits_throw (e : JoinError) : Emits inv (throw e) (.error e) :=
  fun s hs => ⟨s, rfl, hs, fun _ h => nomatch h⟩

theorem Emits.bind {first next : Probe Unit} {outcome rest : Except JoinError (List Row)}
    (hfirst : Emits inv first outcome) (hnext : Emits inv next rest) :
    Emits inv (first >>= fun _ => next)
      (outcome >>= fun rows => rest >>= fun more => pure (rows ++ more)) := by
  intro s hs
  obtain ⟨t, hrun, ht, hrows⟩ := hfirst s hs
  rw [Run.bind_apply, hrun]
  cases outcome with
  | error e => exact ⟨t, rfl, ht, fun rows h => nomatch h⟩
  | ok rows =>
      obtain ⟨u, hlast, hu, hmore⟩ := hnext t ht
      refine ⟨u, ?_, hu, ?_⟩
      · cases rest <;> exact hlast
      · intro all hall
        cases rest with
        | error e => cases hall
        | ok more =>
            obtain rfl := Except.ok.inj hall
            rw [hmore more rfl, hrows rows rfl, List.append_assoc]

/-- Bookkeeping after the last row changes nothing about the rows. -/
theorem Emits.then_returns {first next : Probe Unit} {outcome : Except JoinError (List Row)}
    (hfirst : Emits inv first outcome) (hnext : Returns inv next (.ok ())) :
    Emits inv (first >>= fun _ => next) outcome := by
  have hboth := hfirst.bind hnext.emits
  cases outcome with
  | error e => exact hboth
  | ok rows =>
      have hrows : (Except.ok (ε := JoinError) (rows ++ [])) = .ok rows := by simp
      exact hrows ▸ hboth

/-- Doing something for every item emits, in order, what each of them emits. -/
theorem emits_forM {items : List α} {steps : α → Probe Unit}
    {outcome : α → Except JoinError (List Row)}
    (h : ∀ a ∈ items, Emits inv (steps a) (outcome a)) :
    Emits inv (items.forM steps) (items.flatMapM outcome) := by
  induction items with
  | nil => exact (returns_pure ()).emits
  | cons a rest ih =>
      rw [List.flatMapM_cons]
      exact (h a List.mem_cons_self).bind
        (ih fun b member => h b (List.mem_cons_of_mem a member))

/-- Checking every item without emitting succeeds if every check does. -/
theorem returns_forM {items : List α} {steps : α → Probe Unit}
    (h : ∀ a ∈ items, Returns inv (steps a) (.ok ())) :
    Returns inv (items.forM steps) (.ok ()) := by
  induction items with
  | nil => exact returns_pure ()
  | cons a rest ih =>
      exact (h a List.mem_cons_self).bind fun _ _ =>
        ih fun b member => h b (List.mem_cons_of_mem a member)

/-- Collected steps that succeed started without rows and end with those collected. -/
theorem collect_eq_ok {steps : Probe Unit} {rows : List Row} {s t : StageState}
    (h : collect steps s = (.ok rows, t)) :
    ∃ u, steps ⟨s.session, s.site, #[]⟩ = (.ok (), u) ∧ rows = u.emitted.toList ∧
      t = ⟨u.session, u.site⟩ := by
  unfold collect at h
  cases hrun : steps ⟨s.session, s.site, #[]⟩ with
  | mk result u =>
      rw [hrun] at h
      cases result with
      | error e => cases h
      | ok _ =>
          obtain ⟨hrows, rfl⟩ := Prod.mk.inj h
          exact ⟨u, rfl, (Except.ok.inj hrows).symm, rfl⟩

/-- The steps append the rows; if they fail, they have appended some of the first of them. -/
def Appends (steps : Probe α) (rows : List Row) : Prop :=
  ∀ s : ProbeState, ∃ emitted, (steps s).2.emitted.toList = s.emitted.toList ++ emitted ∧
    emitted <+: rows ∧ ∀ a, (steps s).1 = .ok a → emitted = rows

/-- Steps that leave the rows as they are append none. -/
theorem appends_nil {steps : Probe α} (h : ∀ s, (steps s).2.emitted = s.emitted) :
    Appends steps [] :=
  fun s => ⟨[], by rw [h, List.append_nil], List.prefix_rfl, fun _ _ => rfl⟩

theorem appends_emit (row : Row) : Appends (emit row) [row] := by
  intro s
  refine ⟨[row], ?_, List.prefix_rfl, fun _ _ => rfl⟩
  exact Array.toList_push

theorem Appends.bind {first : Probe α} {next : α → Probe β} {rows more : List Row}
    (hfirst : Appends first rows)
    (hnext : ∀ a s, (first s).1 = .ok a → Appends (next a) more) :
    Appends (first >>= next) (rows ++ more) := by
  intro s
  obtain ⟨emitted, hemitted, hfront, hall⟩ := hfirst s
  rw [Run.bind_apply]
  cases hrun : first s with
  | mk result t =>
      rw [hrun] at hemitted hall
      cases result with
      | error e => exact ⟨emitted, hemitted, hfront.trans (List.prefix_append rows more), nofun⟩
      | ok a =>
          obtain rfl := hall a rfl
          obtain ⟨others, hothers, hrest, hlast⟩ := hnext a s (by rw [hrun]) t
          refine ⟨emitted ++ others, ?_, (List.prefix_append_right_inj emitted).mpr hrest, ?_⟩
          · rw [← List.append_assoc, ← hemitted]
            exact hothers
          · intro b hb
            rw [hlast b hb]

/-- After steps that append nothing come the rows of what follows. -/
theorem Appends.followed {first : Probe α} {next : α → Probe β} {rows : List Row}
    (hfirst : Appends first []) (hnext : ∀ a s, (first s).1 = .ok a → Appends (next a) rows) :
    Appends (first >>= next) rows :=
  hfirst.bind hnext

theorem appends_forM {items : List α} {steps : α → Probe Unit} {rows : α → List Row}
    (h : ∀ a, Appends (steps a) (rows a)) : Appends (items.forM steps) (items.flatMap rows) := by
  induction items with
  | nil => exact appends_nil fun _ => rfl
  | cons a rest ih => exact (h a).bind fun _ _ _ => ih

end Probe

end JoinEngine
