import JoinEngine.Proofs.Codec.Descriptor
import JoinEngine.Proofs.Exec.Lookup
import JoinEngine.Proofs.Exec.Shape

/-!
Descriptors that are read from a text. Splitting a condition makes descriptors whose parts fit
together: as many left as right columns, all of them there, and predicates that find their columns.
Reading asks for none of that, only for numbers that fit a word. What was split, written and read
still fits together, and a stage made of a descriptor that does, wherever it comes from, joins a
left row only to right rows that are equal to it in all pairs, and misses no column on the way.
-/

namespace JoinEngine

/-! ### What is joined by key -/

namespace JoinStage

open Run Probe

variable {stage : JoinStage} {left : Row}

/-- The contract that a probe emits joined rows only, which by key are equal in all pairs. -/
def matchContract (stage : JoinStage) (left : Row) : ProbeContract where
  inv s := ∀ row ∈ s.emitted.toList, ∃ right, row = left ++ right ∧
    (stage.mode = .hashProbe → stage.keysMatch left right = true)
  takes right := stage.mode = .hashProbe → stage.keysMatch left right = true

theorem tests_matchContract : stage.Tests left (stage.matchContract left) where
  counted _ _ hs := hs
  evaluated _ hs := hs
  emitted s right hright hs := by
    intro row member
    rw [Array.toList_push, List.mem_append, List.mem_singleton] at member
    rcases member with hbefore | rfl
    · exact hs row hbefore
    · exact ⟨right, rfl, hright⟩
  cancelled := trivial
  untested _ _ _ _ _ _ := trivial

/-- Steps that emit nothing respect the contract. -/
theorem allows_of_emitted {α : Type} {steps : Probe α}
    (h : ∀ s, (steps s).2.emitted = s.emitted) : (stage.matchContract left).Allows steps := by
  intro s hs
  refine ⟨?_, fun _ _ => trivial, fun _ _ => trivial⟩
  intro row member
  rw [h] at member
  exact hs row member

def silentContract (out : Array Row) : ProbeContract where
  inv s := s.emitted = out

theorem emitted_rescan (s : ProbeState) : (stage.rescan s).2.emitted = s.emitted := by
  let c := silentContract s.emitted
  have hcount : c.Allows (stage.count Counters.scan) := by
    apply ends_modify
    intro t ht
    split <;> exact ht
  have hscan : c.Allows stage.scanRight := by
    refine hcount.bind fun _ _ => ends_get fun t _ => Ends.bind (ends_modify ?_) fun _ _ => ?_
    · exact fun _ ht => ht
    · exact ends_lift (fun _ _ => trivial) fun _ _ => trivial
  have hrescan : c.Allows stage.rescan := by
    refine hscan.bind fun rows _ => ?_
    have hchecks : c.Allows (rows.forM fun row => liftM (stage.expectRight row)) :=
      ProbeContract.allows_forM fun _ _ => ends_lift (fun _ _ => trivial) fun _ _ => trivial
    exact hchecks.bind fun _ _ => ends_pure trivial
  exact (hrescan s rfl).1

/-- A right row is tested by key, so that what is emitted is equal in all pairs. -/
theorem allows_emitIfEqual_matching (right : Row) :
    (stage.matchContract left).Allows (stage.emitIfEqual left right) := by
  unfold emitIfEqual
  cases hmatch : stage.keysMatch left right with
  | true => exact allows_emitIf tests_matchContract (fun _ => hmatch) (Or.inl rfl)
  | false => exact ends_pure trivial

variable [KeyHasher]

theorem emitted_side (s : ProbeState) : (stage.side s).2.emitted = s.emitted := by
  obtain ⟨t, hmake, -, hemitted, -⟩ := stage.makeSide_apply s
  rw [side_apply]
  cases s.site.build.side with
  | some side => rfl
  | none =>
      simp only [hmake]
      cases stage.right.scan (s.session.calls.of stage.relation).scans >>= stage.sideOf with
      | ok side => exact hemitted
      | error e => exact hemitted

theorem allows_probeKeyed_matching :
    (stage.matchContract left).Allows (stage.probeKeyed left) := by
  unfold probeKeyed
  split
  next => exact allows_count tests_matchContract _
  next key _ =>
    split
    next source _ _ =>
      refine (allows_check tests_matchContract).bind fun _ _ => ?_
      refine (allows_of_emitted fun s => ?_).bind fun rows _ => ?_
      · obtain ⟨t, hlookup, hemitted⟩ := stage.lookUp_apply source
          (stage.lookupColumns.map fun column => left.getD column .null) s
        rw [hlookup]
        exact hemitted
      · refine ProbeContract.allows_forM fun right _ => ?_
        exact (allows_of_emitted fun _ => rfl).bind fun _ _ => allows_emitIfEqual_matching right
    next => exact ends_throw trivial
    next =>
      refine (allows_of_emitted emitted_rescan).bind fun rows _ => ?_
      exact ProbeContract.allows_forM fun right _ => allows_emitIfEqual_matching right
    next =>
      refine (allows_of_emitted emitted_side).bind fun side _ => ?_
      exact ProbeContract.allows_forM fun right _ => allows_emitIfEqual_matching right

theorem allows_joinLeft_matching : (stage.matchContract left).Allows (stage.joinLeft left) := by
  unfold joinLeft
  cases hmode : stage.mode with
  | hashProbe => exact allows_probeKeyed_matching
  | fullScan =>
      have hall : (stage.matchContract left).Allows stage.allRight := by
        unfold allRight
        split
        · exact allows_of_emitted emitted_rescan
        · exact (allows_of_emitted emitted_side).bind fun _ _ => ends_pure trivial
      rw [probeAll_eq]
      refine hall.bind fun rows _ => allows_testAll tests_matchContract fun right _ hkeyed => ?_
      rw [hmode] at hkeyed
      cases hkeyed

/-- Whatever its descriptor and in every state, a stage emits joined rows only, and by key only
those that are equal in the pairs it has. -/
theorem allows_probeRow_matching (stage : JoinStage) (left : Row) :
    (stage.matchContract left).Allows (stage.probeRow left) := by
  rw [probeRow_eq]
  refine (allows_check tests_matchContract).bind fun _ _ => ?_
  refine Ends.bind (ends_lift (fun _ _ => trivial) fun _ _ => trivial) fun _ _ => ?_
  refine (allows_count tests_matchContract Counters.probe).bind fun _ _ => ends_get fun s _ => ?_
  exact allows_joinLeft_matching.bind fun _ _ =>
    allows_countEmitted tests_matchContract s.emitted.size

end JoinStage

/-! ### What is read -/

namespace Json

variable {α : Type} {read : Json → Option α}

theorem lt_size_of_nat? {j : Json} {n : Nat} (h : j.nat? = some n) : n < UInt64.size := by
  have hsize : UInt64.size = 18446744073709551616 := rfl
  unfold nat? intBetween? at h
  simp only [Option.bind_eq_bind, Option.bind_eq_some_iff] at h
  obtain ⟨m, ⟨k, -, hbetween⟩, hn⟩ := h
  split at hbetween
  next hbounds =>
    obtain rfl := Option.some.inj hbetween
    obtain rfl := Option.some.inj hn
    omega
  next => cases hbetween

/-- What holds of everything that is read holds of the items of a list that is read. -/
theorem forall_of_list? {holds : α → Prop} (hread : ∀ j a, read j = some a → holds a)
    {levels : Nat} {j : Json} {items : List α} (h : j.list? levels read = some items) :
    ∀ a ∈ items, holds a := by
  unfold list? at h
  obtain ⟨documents, -, hall⟩ := Option.bind_eq_some_iff.mp h
  clear h
  induction documents generalizing items with
  | nil =>
      obtain rfl := Option.some.inj hall
      simp
  | cons document rest ih =>
      simp only [all?, Option.bind_eq_bind, Option.bind_eq_some_iff] at hall
      obtain ⟨a, ha, others, hothers, hitems⟩ := hall
      obtain rfl := Option.some.inj hitems
      exact List.forall_mem_cons.mpr ⟨hread document a ha, ih hothers⟩

theorem Fields.exists_of_required {f : Fields} {name : String} {a : α}
    (h : f.required name read = some a) : ∃ j, read j = some a := by
  obtain ⟨j, -, hj⟩ := Option.bind_eq_some_iff.mp h
  exact ⟨j, hj⟩

end Json

namespace JoinDescriptor

/-- Positions and widths fit a word. -/
structure InWords (d : JoinDescriptor) : Prop where
  leftKeys : ∀ index ∈ d.leftKeys, index < UInt64.size
  rightKeys : ∀ index ∈ d.rightKeys, index < UInt64.size
  leftArity : d.leftArity < UInt64.size
  rightArity : d.rightArity < UInt64.size

structure Consistent (d : JoinDescriptor) : Prop where
  paired : d.leftKeys.length = d.rightKeys.length
  leftKeys : ∀ l ∈ d.leftKeys, l < d.leftArity
  rightKeys : ∀ r ∈ d.rightKeys, r < d.rightArity
  predicates : d.Within

/-- The columns of every pair are there, and their values are equal. -/
def Matches (d : JoinDescriptor) (left right : Row) : Prop :=
  List.Forall₂ (fun l r => ∃ a b, left[l]? = some a ∧ right[r]? = some b ∧ a.sqlEquals b = .true)
    d.leftKeys d.rightKeys

variable {d : JoinDescriptor}

/-- Reading asks of the numbers of a descriptor that they fit a word. -/
theorem inWords_of_decode? {text : String} (h : Json.decode? ofJson? text = some d) :
    d.InWords := by
  obtain ⟨j, -, h⟩ := Option.bind_eq_some_iff.mp h
  unfold ofJson? at h
  simp only [Option.bind_eq_bind, Option.bind_eq_some_iff] at h
  obtain ⟨fields, -, leftKeys, hleft, rightKeys, hright, residual, -, condition, -, leftArity,
    hleftArity, rightArity, hrightArity, hd⟩ := h
  obtain rfl := Option.some.inj hd
  obtain ⟨_, hleft⟩ := Json.Fields.exists_of_required hleft
  obtain ⟨_, hright⟩ := Json.Fields.exists_of_required hright
  obtain ⟨_, hleftArity⟩ := Json.Fields.exists_of_required hleftArity
  obtain ⟨_, hrightArity⟩ := Json.Fields.exists_of_required hrightArity
  exact ⟨Json.forall_of_list? (fun _ _ => Json.lt_size_of_nat?) hleft,
    Json.forall_of_list? (fun _ _ => Json.lt_size_of_nat?) hright,
    Json.lt_size_of_nat? hleftArity, Json.lt_size_of_nat? hrightArity⟩

theorem Portable.decode? (h : d.Portable) (hdepth : d.toJson.fits Json.maxDepth = true) :
    ∀ text ∈ [d.toJson.compact, d.toJson.pretty], Json.decode? ofJson? text = some d := by
  have hread : ofJson? Json.maxDepth d.toJson = some d := h.ofJson?_toJson hdepth
  simp only [List.forall_mem_cons, Json.decode?, h.exact.parse?_compact, h.exact.parse?_pretty]
  exact ⟨hread, hread, by simp⟩

theorem consistent_of_classify (h : classify d.condition d.leftArity d.rightArity = .ok d) :
    d.Consistent :=
  ⟨keys_length_of_classify h, leftKeys_lt h, rightKeys_lt h, within_of_classify h⟩

theorem Consistent.inWords (h : d.Consistent) (hleft : d.leftArity < UInt64.size)
    (hright : d.rightArity < UInt64.size) : d.InWords where
  leftKeys index member := Nat.lt_trans (h.leftKeys index member) hleft
  rightKeys index member := Nat.lt_trans (h.rightKeys index member) hright
  leftArity := hleft
  rightArity := hright

/-- Rows of the widths of a consistent descriptor whose pairs are equal as far as they go are equal
in all pairs. -/
theorem Consistent.matches_of_keysMatch {stage : JoinStage} (h : stage.descriptor.Consistent)
    {left right : Row} (hleft : left.length = stage.descriptor.leftArity)
    (hright : right.length = stage.descriptor.rightArity)
    (hmatch : stage.keysMatch left right = true) : stage.descriptor.Matches left right := by
  have hvalue {row : Row} {column : Nat} (hcolumn : column < row.length) :
      row[column]? = some (row.getD column .null) := by
    rw [List.getD_eq_getElem?_getD, List.getElem?_eq_getElem hcolumn]
    rfl
  refine List.forall₂_iff_zip.mpr ⟨h.paired, fun {l r} member => ?_⟩
  have hl : l < left.length := hleft.symm ▸ h.leftKeys l (List.of_mem_zip member).1
  have hr : r < right.length := hright.symm ▸ h.rightKeys r (List.of_mem_zip member).2
  refine ⟨_, _, hvalue hl, hvalue hr, ?_⟩
  exact (Ternary.isTrue_iff _).mp (List.all_eq_true.mp hmatch _ member)

/-- A stage of a consistent descriptor joins a left row only to right rows that are equal to it in
all pairs, and fails for a missing column only if the relation answers so. -/
theorem Consistent.probeRow [KeyHasher] (h : d.Consistent) {relation : RightRelation}
    {config : JoinConfig} {n : Nat} {stage : JoinStage}
    (hcreate : JoinStage.create d relation config n = .ok stage) {left : Row}
    (hleft : left.length = d.leftArity) {session : Session} {site : Site}
    (hsite : stage.Reached site) :
    (∀ e, (stage.probeRow left ⟨session, site, #[]⟩).1 = .error e → e.IsNoColumn →
      relation.Fails e) ∧
    ∀ row ∈ (stage.probeRow left ⟨session, site, #[]⟩).2.emitted.toList,
      ∃ right, row = left ++ right ∧ d.Matches left right := by
  obtain ⟨-, harity, hstage⟩ := JoinStage.create_eq_ok_iff.mp hcreate
  have hdescriptor : stage.descriptor = d := by rw [hstage]
  have hright : stage.right = relation := by rw [hstage]
  have hmode : stage.mode = JoinStage.modeOf d := by rw [hstage]
  subst hdescriptor hright
  have hshaped : stage.Shaped := ⟨harity, h.predicates⟩
  obtain ⟨⟨-, hwidths⟩, -, herrs⟩ :=
    JoinStage.ends_probeRow hshaped (fun _ he => he) hleft ⟨session, site, #[]⟩ ⟨hsite, by simp⟩
  obtain ⟨hmatching, -, -⟩ :=
    stage.allows_probeRow_matching left ⟨session, site, #[]⟩ nofun
  refine ⟨herrs, fun row member => ?_⟩
  obtain ⟨right, rfl, hkeyed⟩ := hmatching row member
  refine ⟨right, rfl, ?_⟩
  have hwidth : right.length = stage.descriptor.rightArity := by
    have hjoined := hwidths _ member
    rw [List.length_append, hleft] at hjoined
    exact Nat.add_left_cancel hjoined
  cases hequi : stage.descriptor.isEqui with
  | true => exact h.matches_of_keysMatch hleft hwidth (hkeyed (hmode.trans (if_pos hequi)))
  | false =>
      -- no right column, so no left column either
      have hnone : stage.descriptor.rightKeys = [] := by simpa [isEqui] using hequi
      have hleftNone : stage.descriptor.leftKeys = [] := by
        rw [← List.length_eq_zero_iff, h.paired, hnone]
        rfl
      unfold Matches
      rw [hnone, hleftNone]
      exact .nil

/-- What reading guarantees of a descriptor, and what it does not. Of the descriptors whose
predicates can be written, a text gives exactly those whose positions and widths fit a word,
whether their parts fit together or not. One that splitting a condition made comes back from its
texts as it was, and its parts fit together. A stage of any descriptor whose parts fit together
joins a left row, at every site it can come to and in every state of the query, only to right rows
that are equal to it in all pairs of columns, all of which are there; it fails for a missing column
only if the relation answers with such a failure. -/
theorem read_descriptors_unchecked [KeyHasher] (d : JoinDescriptor)
    (hcondition : d.condition.Portable) (hresidual : ∀ e ∈ d.residual, e.Portable)
    (hdepth : d.toJson.fits Json.maxDepth = true) :
    ((∃ text, Json.decode? ofJson? text = some d) ↔ d.InWords) ∧
    (classify d.condition d.leftArity d.rightArity = .ok d →
      d.leftArity < UInt64.size → d.rightArity < UInt64.size →
      d.Consistent ∧
        ∀ text ∈ [d.toJson.compact, d.toJson.pretty], Json.decode? ofJson? text = some d) ∧
    (d.Consistent →
      ∀ (relation : RightRelation) (config : JoinConfig) (n : Nat) (stage : JoinStage),
        JoinStage.create d relation config n = .ok stage →
        ∀ (left : Row) (session : Session) (site : Site), left.length = d.leftArity →
          stage.Reached site →
          (∀ e, (stage.probeRow left ⟨session, site, #[]⟩).1 = .error e → e.IsNoColumn →
            relation.Fails e) ∧
          ∀ row ∈ (stage.probeRow left ⟨session, site, #[]⟩).2.emitted.toList,
            ∃ right, row = left ++ right ∧ d.Matches left right) := by
  have hportable (h : d.InWords) : d.Portable :=
    { h with condition := hcondition, residual := hresidual }
  refine ⟨⟨?_, ?_⟩, ?_, ?_⟩
  · rintro ⟨text, htext⟩
    exact inWords_of_decode? htext
  · intro h
    exact ⟨_, (hportable h).decode? hdepth _ List.mem_cons_self⟩
  · intro h hleft hright
    have hconsistent := consistent_of_classify h
    exact ⟨hconsistent, (hportable (hconsistent.inWords hleft hright)).decode? hdepth⟩
  · intro h relation config n stage hcreate left session site hleft hsite
    exact h.probeRow hcreate hleft hsite

/-- A descriptor that splitting made is read, and a stage of it joins a row; with a second left
column, for which there is no right one, it is read as well. -/
theorem read_descriptors_of_both_kinds :
    let residual : Expr := .compare .lt (.column 1) (.column 2)
    let d : JoinDescriptor :=
      ⟨[0], [0], some residual, .and [.columnsEqual 0 2, residual], 2, 1⟩
    let unpaired : JoinDescriptor := { d with leftKeys := [0, 1] }
    let left : Row := [.int32 2, .int32 1]
    let rows : List Row := [[.int64 2], [.null], [.int64 3]]
    let relation : RightRelation := .rescan (MemoryRelation.source ⟨"r", 1, rows, false⟩)
    (d.Consistent ∧ Json.decode? ofJson? d.toJson.compact = some d) ∧
      (∃ stage, JoinStage.create d relation {} 0 = .ok stage ∧
        (stage.probeRow left ⟨{}, {}, #[]⟩).2.emitted.toList = [left ++ [.int64 2]]) ∧
      d.Matches left [.int64 2] ∧ ∃ text, Json.decode? ofJson? text = some unpaired := by
  intro residual d unpaired left rows relation
  have hresidual : ∀ e ∈ d.residual, e.Portable := by
    rintro e ⟨⟩
    exact .compare _ (.column (by decide)) (.column (by decide))
  have hequal : (Expr.columnsEqual 0 2).Portable :=
    .compare _ (.column (by decide)) (.column (by decide))
  have hcondition : d.condition.Portable :=
    .and (List.forall_mem_cons.mpr ⟨hequal, List.forall_mem_singleton.mpr (hresidual _ rfl)⟩)
  obtain ⟨-, hsplit, hjoin⟩ := read_descriptors_unchecked d hcondition hresidual (by decide)
  obtain ⟨hconsistent, hdecode⟩ := hsplit rfl (by decide) (by decide)
  let stage : JoinStage := ⟨d, relation, {}, .hashProbe, .rescan, [], 0⟩
  have hemitted : (stage.probeRow left ⟨{}, {}, #[]⟩).2.emitted.toList =
      [left ++ [.int64 2]] := rfl
  obtain ⟨-, hmatches⟩ := hjoin hconsistent relation {} 0 stage rfl left {} {} rfl .fresh
  obtain ⟨right, hright, hmatch⟩ := hmatches _ (hemitted ▸ List.mem_singleton_self _)
  obtain rfl := List.append_cancel_left hright
  obtain ⟨hread, -, -⟩ := read_descriptors_unchecked unpaired hcondition hresidual (by decide)
  exact ⟨⟨hconsistent, hdecode _ List.mem_cons_self⟩, ⟨stage, rfl, hemitted⟩, hmatch,
    hread.mpr ⟨by decide, by decide, by decide, by decide⟩⟩

/-- Two left columns and one right column are read as they are, and a stage of what is read joins
rows of which only the first listed pair was looked at. -/
theorem unpaired_descriptor_is_read :
    let d : JoinDescriptor := ⟨[0, 1], [0], none, .columnsEqual 0 2, 2, 1⟩
    let left : Row := [.int32 1, .int32 2]
    let right : Row := [.int32 1]
    let relation : RightRelation := .rescan (MemoryRelation.source ⟨"r", 1, [right], false⟩)
    Json.decode? ofJson? d.toJson.compact = some d ∧ d.leftKeys.length ≠ d.rightKeys.length ∧
      (∃ stage, JoinStage.create d relation {} 0 = .ok stage ∧
        (stage.probeRow left ⟨{}, {}, #[]⟩).2.emitted.toList = [left ++ right]) ∧
      ¬ d.Matches left right ∧
      ¬ ∀ text d, Json.decode? ofJson? text = some d → d.Consistent := by
  intro d left right relation
  have hcondition : d.condition.Portable :=
    .compare _ (.column (by decide)) (.column (by decide))
  have hportable : d.Portable := ⟨by decide, by decide, nofun, hcondition, by decide, by decide⟩
  have hdecode : Json.decode? ofJson? d.toJson.compact = some d :=
    hportable.decode? (by decide) _ List.mem_cons_self
  have hlengths : d.leftKeys.length ≠ d.rightKeys.length := by decide
  refine ⟨hdecode, hlengths, ⟨_, rfl, rfl⟩, ?_, ?_⟩
  · exact fun hmatch => hlengths hmatch.length_eq
  · exact fun hstated => hlengths (hstated _ d hdecode).paired

end JoinDescriptor

end JoinEngine
