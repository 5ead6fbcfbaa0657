import JoinEngine.Proofs.Exec.Cache
import JoinEngine.Proofs.Exec.Decided
import JoinEngine.Proofs.Exec.NestedLoop

/-!
Options of join execution. The capacity hint decides how many buckets an index has, and with them
which keys share a chain; the candidates for a hash and their order are the same all the same.
What is counted is of no account, so stages that differ in their options come to the same, as long
as no limit on the rows of a side gets in the way. Where a limit does, no row is ever emitted.
-/

namespace JoinEngine

def JoinConfig.Admits (config : JoinConfig) (count : Nat) : Prop :=
  ∀ limit, config.maxBuildRows = some limit → count ≤ limit

namespace BuildSide

theorem rowLimit_eq_min {config : JoinConfig} {limit : Nat}
    (h : config.maxBuildRows = some limit) : rowLimit config = min limit maxIndexedRows := by
  unfold rowLimit
  rw [h]

/-- A limit that admits the rows is of no account: what counts is the capacity of an index. -/
theorem rowLimit_lt_iff {config : JoinConfig} {count : Nat} (h : config.Admits count) :
    rowLimit config < count ↔ maxIndexedRows < count := by
  unfold rowLimit
  cases hmax : config.maxBuildRows with
  | none => exact Iff.rfl
  | some limit =>
      have hlimit := h limit hmax
      simp only
      omega

theorem rowLimit_of_admits {config : JoinConfig} {count : Nat} (h : config.Admits count)
    (hover : maxIndexedRows < count) : rowLimit config = maxIndexedRows := by
  unfold rowLimit
  cases hmax : config.maxBuildRows with
  | none => rfl
  | some limit => exact Nat.min_eq_right (Nat.le_trans (Nat.le_of_lt hover) (h limit hmax))

end BuildSide

namespace JoinStage

section

variable [KeyHasher]

section

variable {columns : List Nat} {keys : Option (List Nat)} {rows : List Row} {arity : Nat}

open BuildSide

/-- Sides that hold the same rows, indexed by the same columns, read alike. -/
theorem sidesAlike_of_holds {a b : BuildSide} (ha : a.Holds (some columns) rows)
    (hb : b.Holds (some columns) rows) (hcount : rows.length ≤ maxIndexedRows) :
    SidesAlike (.ok a) (.ok b) where
  rows := congrArg Except.ok (ha.arena.rows.trans hb.arena.rows.symm)
  candidates hash :=
    congrArg Except.ok ((ha.candidates hcount hash).trans (hb.candidates hcount hash).symm)

/-- Storing more rows in two sides that hold the same rows makes sides that read alike, or fails
at the same row. -/
theorem sidesAlike_addAll (rest : List Row) {a b : BuildSide} (ha : a.Holds (some columns) rows)
    (hb : b.Holds (some columns) rows) (haa : a.arena.arity = arity)
    (hba : b.arena.arity = arity) (hcount : (rows ++ rest).length ≤ maxIndexedRows) :
    SidesAlike (rest.foldlM (add arity columns) a) (rest.foldlM (add arity columns) b) := by
  induction rest generalizing a b rows with
  | nil =>
      rw [List.append_nil] at hcount
      exact sidesAlike_of_holds ha hb hcount
  | cons row rest ih =>
      rw [List.foldlM_cons, List.foldlM_cons]
      by_cases harity : row.length = arity
      · have hroom : rows.length < maxIndexedRows := by
          rw [List.length_append, List.length_cons] at hcount
          omega
        obtain ⟨nextA, hnextA, hholdsA, hsameA⟩ := ha.add hroom (harity.trans haa.symm)
        obtain ⟨nextB, hnextB, hholdsB, hsameB⟩ := hb.add hroom (harity.trans hba.symm)
        rw [haa, Option.getD_some] at hnextA
        rw [hba, Option.getD_some] at hnextB
        rw [hnextA, hnextB]
        rw [List.append_cons] at hcount
        exact ih hholdsA hholdsB (hsameA.trans haa) (hsameB.trans hba) hcount
      · rw [add_refused harity, add_refused harity]
        exact sidesAlike_refl _

/-- The capacity hint cannot be told from the side. -/
theorem sidesAlike_ofRows (rows : List Row) (arity : Nat) (keys : Option (List Nat))
    (hint other : Nat) :
    SidesAlike (ofRows rows arity keys hint) (ofRows rows arity keys other) := by
  unfold ofRows
  split
  · exact sidesAlike_refl _
  next hcount =>
    cases keys with
    | none => exact sidesAlike_refl _
    | some columns =>
        exact sidesAlike_addAll rows (holds_start arity (some columns) _)
          (holds_start arity (some columns) _) rfl rfl (Nat.le_of_not_lt hcount)

/-- Neither can the limit, if it admits the rows. -/
theorem sidesAlike_ofScan (right : RightRelation) (keys : Option (List Nat))
    {config other : JoinConfig} (hadmits : config.Admits rows.length)
    (hother : other.Admits rows.length) :
    SidesAlike (ofScan right keys config rows) (ofScan right keys other rows) := by
  unfold ofScan
  by_cases hover : maxIndexedRows < rows.length
  · rw [rowLimit_of_admits hadmits hover, rowLimit_of_admits hother hover]
    rw [if_pos hover, if_pos hover]
    exact sidesAlike_refl _
  · rw [if_neg (fun h => hover ((rowLimit_lt_iff hadmits).mp h)),
      if_neg (fun h => hover ((rowLimit_lt_iff hother).mp h))]
    exact sidesAlike_ofRows rows _ keys _ _

end

section

variable {d : JoinDescriptor} {right : RightRelation} {config config' : JoinConfig}
  {relation : Nat} {stage other : JoinStage} {rows : List Row}

omit [KeyHasher] in
/-- A stage that is created without a materialized side never takes one. -/
theorem sideless_of_create (hcreate : create d right config relation = .ok stage)
    (haccess : stage.access ≠ .materialized) : stage.Sideless := by
  obtain ⟨-, -, rfl⟩ := create_eq_ok_iff.mp hcreate
  cases right with
  | bounded source => exact absurd rfl haccess
  | rescan source => exact Or.inl rfl
  | partitioned source =>
      cases hmode : modeOf d with
      | fullScan =>
          rw [hmode] at haccess
          exact absurd rfl haccess
      | hashProbe =>
          rw [hmode] at haccess
          simp only [accessTo] at haccess ⊢
          cases hcovering : coveringKey d source.keyColumns with
          | none =>
              rw [hcovering] at haccess
              exact absurd rfl haccess
          | some columns => exact Or.inr ⟨rfl, rfl, source, rfl⟩

/-- Stages with other options for the same join mirror each other. -/
theorem mirrors_of_tuned (hcreate : create d right config relation = .ok stage)
    (hother : create d right config' relation = .ok other) (hconstant : right.Constant)
    (hadmits : stage.access = .materialized → ∀ rows, right.scan 0 = .ok rows →
      config.Admits rows.length ∧ config'.Admits rows.length) :
    ∃ found, stage.Mirrors other (right.scan 0) found fun _ => False := by
  obtain ⟨found, hanswers⟩ := hconstant.answers
  have hsideless := sideless_of_create hcreate
  obtain ⟨-, -, rfl⟩ := create_eq_ok_iff.mp hcreate
  obtain ⟨-, -, rfl⟩ := create_eq_ok_iff.mp hother
  refine ⟨found, rfl, rfl, rfl, rfl, rfl, rfl, ?_, hanswers, hanswers⟩
  by_cases haccess : (accessTo d (modeOf d) right).1 = .materialized
  · right
    cases hscan : right.scan 0 with
    | error e => exact sidesAlike_refl _
    | ok rows =>
        obtain ⟨hfirst, hsecond⟩ := hadmits haccess rows hscan
        exact sidesAlike_ofScan right _ hfirst hsecond
  · exact Or.inl (hsideless haccess)

end

section

variable {stage : JoinStage}

open Run

/-- A stage that can make no side leaves the slot empty and adds nothing to what is emitted. -/
def Barren (stage : JoinStage) : Prop :=
  stage.access = .materialized ∧
    ∀ n side, (stage.right.scan n >>= stage.sideOf) ≠ .ok side

def barrenContract (out : Array Row) : ProbeContract where
  inv s := s.emitted = out ∧ s.site.build.side = none
  takes _ := False

omit [KeyHasher] in
theorem tests_barrenContract (left : Row) (out : Array Row) :
    stage.Tests left (barrenContract out) where
  counted _ _ hs := hs
  evaluated _ hs := hs
  emitted _ _ hnever _ := hnever.elim
  cancelled := trivial
  untested _ _ _ _ _ _ := trivial

theorem Barren.side (h : stage.Barren) (out : Array Row) :
    (barrenContract out).Allows stage.side fun _ => False := by
  intro s hs
  obtain ⟨t, hmake, -, hemitted, -⟩ := stage.makeSide_apply s
  rw [side_apply]
  simp only [hs.2, hmake]
  cases hmade : stage.right.scan (s.session.calls.of stage.relation).scans >>= stage.sideOf with
  | ok side => exact absurd hmade (h.2 _ side)
  | error e =>
      exact ⟨⟨hemitted.trans hs.1, rfl⟩, fun _ hside => (nomatch hside), fun _ _ => trivial⟩

theorem Barren.probeRow (h : stage.Barren) (left : Row) (out : Array Row) :
    (barrenContract out).Allows (stage.probeRow left) := by
  have htests : stage.Tests left (barrenContract out) := tests_barrenContract left out
  have hjoin : (barrenContract out).Allows (stage.joinLeft left) := by
    by_cases hneeds : stage.NeedsSide left
    · obtain ⟨rest, hjoin, -⟩ := joinLeft_of_needsSide hneeds
      rw [hjoin]
      exact (h.side out).bind fun _ hnever => hnever.elim
    · -- the side is not needed by a row without a key only
      have hkey : stage.mode = .hashProbe ∧ stage.descriptor.leftKey left = none := by
        simpa [NeedsSide, h.1] using hneeds
      simp only [joinLeft, probeKeyed, hkey.1, hkey.2]
      exact allows_count htests Counters.nullKeySkip
  rw [probeRow_eq]
  refine (allows_check htests).bind fun _ _ => ?_
  refine Ends.bind (ends_lift (fun _ _ => trivial) fun _ _ => trivial) fun _ _ => ?_
  refine (allows_count htests Counters.probe).bind fun _ _ => ends_get fun s _ => ?_
  exact hjoin.bind fun _ _ => allows_countEmitted htests s.emitted.size

theorem Barren.execute (h : stage.Barren) (input : List Pull) :
    Ends (fun s : StageState => s.site.build.side = none) (fun _ => True) (stage.execute input)
      fun rows => rows = [] := by
  have hpull (p : Pull) : (barrenContract #[]).Allows (Probe.pull p) := by
    have hitem : (barrenContract #[]).Allows (liftM p.item : Probe Row) :=
      ends_lift (fun _ _ => trivial) fun _ _ => trivial
    unfold Probe.pull
    split
    · exact (ends_modify fun _ hs => hs).bind fun _ _ => hitem
    · exact hitem
  have hrows : (barrenContract #[]).Allows
      (input.forM fun p => do let left ← Probe.pull p; stage.probeRow left) :=
    ProbeContract.allows_forM fun p _ => (hpull p).bind fun left _ => h.probeRow left #[]
  refine (hrows.collect (fun s hs => ⟨rfl, hs⟩) fun t ht => ⟨ht.2, ?_⟩).releasing fun _ _ => rfl
  rw [ht.1]

end

section

variable {d : JoinDescriptor} {right : RightRelation} {config config' : JoinConfig}
  {relation : Nat} {stage : JoinStage}

/-- Below the number of rows that are scanned the limit leaves a materialized stage barren, and
tells why. -/
theorem barren_of_limit (hcreate : create d right config relation = .ok stage)
    (hconstant : right.Constant) (haccess : stage.access = .materialized) {rows : List Row}
    (hscan : right.scan 0 = .ok rows) {limit : Nat} (hlimit : config.maxBuildRows = some limit)
    (hover : limit < rows.length) :
    stage.Barren ∧ ∀ n, (right.scan n >>= stage.sideOf) =
      .error (.buildLimit right.name (min limit maxIndexedRows)) := by
  obtain ⟨-, -, rfl⟩ := create_eq_ok_iff.mp hcreate
  have hbound := BuildSide.rowLimit_eq_min hlimit
  have hexceeded : BuildSide.rowLimit config < rows.length := by
    rw [hbound]
    exact Nat.lt_of_le_of_lt (Nat.min_le_left _ _) hover
  have hunmade (n : Nat) : (right.scan n >>= sideOf ⟨d, right, config, modeOf d,
      (accessTo d (modeOf d) right).1, (accessTo d (modeOf d) right).2, relation⟩) =
        .error (.buildLimit right.name (min limit maxIndexedRows)) := by
    rw [hconstant.scan n, hscan, ← hbound]
    exact sideOf_error hexceeded
  refine ⟨⟨haccess, fun n side hside => ?_⟩, hunmade⟩
  have herror := hunmade n
  rw [hside] at herror
  cases herror

/-- A barren stage never has a side. -/
theorem Visited.empty_of_barren {s : StageState} (hvisited : stage.Visited s)
    (hbarren : stage.Barren) : s.site.build.side = none := by
  have hslot : ∀ side, s.site.build.side = some side → False :=
    hvisited.reached.slot fun n rows side hrows hside => by
      refine hbarren.2 n side ?_
      rw [hrows]
      exact hside
  exact Option.eq_none_iff_forall_ne_some.mpr fun side hside => hslot side hside

/-- Options never change what a join gives. With other options the same stage can be created, and
from any states the two may have come to, with tokens alike, every call gives the same rows in the
same order, or the same failure, unless one has a materialized side and a limit on its rows that
does not admit those scanned. With such a limit it has no side, ever, and emits nothing: a probe
that needs the side fails with the limit. -/
theorem calls_agree_of_tuned (hcreate : create d right config relation = .ok stage)
    (hconstant : right.Constant) :
    ∃ other, create d right config' relation = .ok other ∧
      (∀ s t, stage.Visited s → other.Visited t → s.session.SameToken t.session →
        (stage.access = .materialized → ∀ rows, right.scan 0 = .ok rows →
          config.Admits rows.length ∧ config'.Admits rows.length) →
        (∀ input, (stage.execute input s).1 = (other.execute input t).1) ∧
          ∀ c, (stage.call s c).1 = (other.call t c).1) ∧
      ∀ rows limit, stage.access = .materialized → right.scan 0 = .ok rows →
        config.maxBuildRows = some limit → limit < rows.length → ∀ s, stage.Visited s →
          s.site.build.side = none ∧
          (∀ input joined, (stage.execute input s).1 = .ok joined → joined = []) ∧
          ∀ left out, (stage.call s (.probe left out)).1.rows = out.toList ∧
            (s.session.check = .ok () → left.length = d.leftArity → stage.NeedsSide left →
              (stage.call s (.probe left out)).1.outcome =
                .error (.buildLimit right.name (min limit maxIndexedRows))) := by
  obtain ⟨hbounded, harity, -⟩ := create_eq_ok_iff.mp hcreate
  obtain ⟨other, hother⟩ : ∃ other, create d right config' relation = .ok other :=
    ⟨_, create_eq_ok_iff.mpr ⟨hbounded, harity, rfl⟩⟩
  refine ⟨other, hother, ?_, ?_⟩
  · intro s t hs ht htoken hadmits
    obtain ⟨found, hmirrors⟩ := mirrors_of_tuned hcreate hother hconstant hadmits
    have haligned : stage.Aligned other .shared (right.scan 0) (s.session.calls.of stage.relation)
        s.probing t.probing := by
      obtain ⟨-, -, rfl⟩ := create_eq_ok_iff.mp hcreate
      obtain ⟨-, -, rfl⟩ := create_eq_ok_iff.mp hother
      exact ⟨.same htoken, rfl, hs.reached.slotSound hconstant, ht.reached.slotSound hconstant,
        Calls.upTo_refl _⟩
    refine ⟨fun input => ?_, fun c => ?_⟩
    · rcases execute_matches hmirrors input s t haligned with
        ⟨hsame, -⟩ | ⟨_, -, hnever | ⟨hnever, -⟩⟩
      · exact hsame
      · exact hnever.elim
      · exact hnever.elim
    · rcases call_matches hmirrors c haligned with hsame | ⟨_, hnever, -⟩
      · exact hsame
      · exact hnever.elim
  · intro rows limit haccess hscan hlimit hover s hs
    obtain ⟨hbarren, hunmade⟩ := barren_of_limit hcreate hconstant haccess hscan hlimit hover
    have hempty := hs.empty_of_barren hbarren
    refine ⟨hempty, (hbarren.execute · s hempty |>.2.1), fun left out => ⟨?_, ?_⟩⟩
    · have hafter := (hbarren.probeRow left out ⟨s.session, s.site, out⟩ ⟨rfl, hempty⟩).1
      exact congrArg Array.toList hafter.1
    · intro hcheck hleft hneeds
      obtain ⟨-, -, rfl⟩ := create_eq_ok_iff.mp hcreate
      obtain ⟨-, -, hfailed⟩ :=
        probeRow_builds (s := ⟨s.session, s.site, out⟩) hcheck hleft hneeds hempty
      exact (hfailed _ (hunmade _)).1

end

end

/-- Three rows in an index made for one and in one made for many give the same; with a limit of
two they give none. -/
theorem calls_agree_of_small_index :
    let rows : List Row := [[.int32 1], [.null], [.int32 1]]
    let right : RightRelation := .bounded ⟨"r", 1, false, fun _ => .ok rows⟩
    let d : JoinDescriptor := ⟨[0], [0], none, .columnsEqual 0 1, 1, 1⟩
    let input := [Pull.ofRow [.int64 1]]
    ∃ stage other limited : JoinStage, create d right {} 0 = .ok stage ∧
      create d right ⟨4, some 3, 0, false⟩ 0 = .ok other ∧
      create d right ⟨1, some 2, 1024, true⟩ 0 = .ok limited ∧
      (stage.execute input {}).1 = (other.execute input {}).1 ∧
      (limited.call {} (.probe [.int64 1] #[])).1.outcome = .error (.buildLimit "r" 2) := by
  intro rows right d input
  have hconstant : right.Constant :=
    ⟨.ok rows, fun _ => .ok [], fun _ => Or.inl rfl, fun _ hsource => nomatch hsource⟩
  have hcreate : create d right {} 0 = .ok ⟨d, right, {}, .hashProbe, .materialized, [], 0⟩ := rfl
  have hlimited : create d right ⟨1, some 2, 1024, true⟩ 0 =
      .ok ⟨d, right, ⟨1, some 2, 1024, true⟩, .hashProbe, .materialized, [], 0⟩ := rfl
  obtain ⟨other, hother, hagree, -⟩ :
      ∃ other, create d right ⟨4, some 3, 0, false⟩ 0 = .ok other ∧ _ ∧ _ :=
    calls_agree_of_tuned hcreate hconstant
  obtain ⟨-, -, -, hover⟩ : ∃ other, create d right {} 0 = .ok other ∧ _ ∧ _ :=
    calls_agree_of_tuned hlimited hconstant
  refine ⟨_, other, _, hcreate, hother, hlimited, ?_, ?_⟩
  · refine (hagree {} {} (.fresh {}) (.fresh {}) (Session.sameToken_refl _) ?_).1 input
    intro _ scanned hscanned
    obtain rfl := Except.ok.inj hscanned
    exact ⟨fun limit hlimit => Option.some.inj hlimit ▸ by decide,
      fun limit hlimit => Option.some.inj hlimit ▸ by decide⟩
  · obtain ⟨-, -, hprobe⟩ := hover rows 2 rfl rfl rfl (by decide) {} (.fresh {})
    exact (hprobe [.int64 1] #[]).2 rfl rfl ⟨rfl, fun _ => by decide⟩

end JoinStage

end JoinEngine
