import Mathlib.Data.List.Count
import Mathlib.Data.List.Zip
import JoinEngine.Key.Fnv
import JoinEngine.Proofs.Exec.Cache
import JoinEngine.Proofs.Exec.Matching

/-!
Joining by lookup over a store that may answer anything. The stage asks for a key in the store's
own order, takes from the first pair it finds for each key column, and tests all pairs again on
the rows it is given. So a store that gives too many rows does no harm, and one that gives every
row of the key, as often as it is stored, is joined in full. Nothing is asked of the state that a
probe starts in: the query may be cancelled, and the probe may fail on the way.
-/

namespace JoinEngine

/-- A row with a null in one of the columns has no key in them. -/
theorem Row.key_eq_none {row : Row} {columns : List Nat} {c : Nat} (hc : c ∈ columns)
    (hnull : row[c]? = some .null) : row.key columns = none := by
  induction columns with
  | nil => cases hc
  | cons other rest ih =>
      unfold key
      rcases List.mem_cons.mp hc with rfl | hrest
      · rw [hnull]
        rfl
      · rw [ih hrest]
        cases row[other]? <;> simp

namespace KeyedSource

/-- A lookup gives every stored row whose key columns equal the key, as often as it is stored.
Nothing is said about other rows. -/
def Serves (source : KeyedSource) (stored : List Row) (n : Nat) (key : List Value) : Prop :=
  ∀ answer, source.lookup n key = .ok answer → ∀ right ∈ stored,
    RightRelation.rowMatches source.keyColumns key right = true →
      answer.count right = stored.count right

end KeyedSource

namespace JoinDescriptor

/-- All pairs are equal on the two rows, and the residual is true. -/
def accepts (d : JoinDescriptor) (left right : Row) : Bool :=
  (d.pairTruths left right).all Ternary.isTrue &&
    match d.residualHolds (left ++ right) with
    | .ok t => t.isTrue
    | .error _ => false

theorem accepts_iff {d : JoinDescriptor} {left right : Row} :
    d.accepts left right = true ↔
      (∀ t ∈ d.pairTruths left right, t = .true) ∧ d.residualHolds (left ++ right) = .ok .true := by
  unfold accepts
  rw [Bool.and_eq_true, List.all_eq_true]
  simp only [Ternary.isTrue_iff]
  apply and_congr_right
  intro _
  cases d.residualHolds (left ++ right) with
  | error e => simp
  | ok t => simpa using Ternary.isTrue_iff t

def joined (d : JoinDescriptor) (left : Row) (rights : List Row) : List Row :=
  (rights.filter (d.accepts left)).map (left ++ ·)

theorem mem_joined {d : JoinDescriptor} {left row : Row} {rights : List Row} :
    row ∈ d.joined left rights ↔
      ∃ right ∈ rights, d.accepts left right = true ∧ left ++ right = row := by
  simp only [joined, List.mem_map, List.mem_filter, and_assoc]

theorem joined_eq_flatMap (d : JoinDescriptor) (left : Row) (rights : List Row) :
    d.joined left rights =
      rights.flatMap fun right => if d.accepts left right then [left ++ right] else [] := by
  unfold joined
  induction rights with
  | nil => rfl
  | cons right rest ih =>
      rw [List.flatMap_cons, ← ih]
      cases haccepts : d.accepts left right <;> simp [haccepts]

/-- Joining keeps the number of times that an accepted row occurs. -/
theorem count_joined {d : JoinDescriptor} {left right : Row}
    (haccepts : d.accepts left right = true) (rights : List Row) :
    (d.joined left rights).count (left ++ right) = rights.count right := by
  unfold joined
  rw [List.count_map_of_injective _ _ (List.append_right_injective left),
    List.count_filter haccepts]

end JoinDescriptor

namespace JoinStage

section

variable {d : JoinDescriptor} {columns leftColumns : List Nat}

/-- The pairs cover a key whose columns are all among theirs. -/
theorem exists_coveringKey (hpaired : d.leftKeys.length = d.rightKeys.length)
    (hcovered : ∀ column ∈ columns, column ∈ d.rightKeys) :
    ∃ leftColumns, coveringKey d columns = some leftColumns := by
  induction columns with
  | nil => exact ⟨[], rfl⟩
  | cons column rest ih =>
      rw [List.forall_mem_cons] at hcovered
      obtain ⟨others, hothers⟩ := ih hcovered.2
      have hmem : column ∈ (d.rightKeys.zip d.leftKeys).map Prod.fst := by
        rw [List.map_fst_zip (Nat.le_of_eq hpaired.symm)]
        exact hcovered.1
      cases hfirst : (d.rightKeys.zip d.leftKeys).lookup column with
      | none =>
          obtain ⟨pair, hpair, rfl⟩ := List.mem_map.mp hmem
          exact absurd (List.lookup_eq_none_iff.mp hfirst pair hpair) (by simp)
      | some l => exact ⟨l :: others, by simp [coveringKey, hfirst, hothers]⟩

/-- Over a store whose key the pairs cover, the stage that is created looks rows up. -/
theorem create_lookup {source : KeyedSource} (hequi : d.isEqui = true)
    (harity : source.arity = d.rightArity)
    (hcovering : coveringKey d source.keyColumns = some leftColumns) (config : JoinConfig)
    (relation : Nat) :
    create d (.partitioned source) config relation =
      .ok ⟨d, .partitioned source, config, .hashProbe, .lookup, leftColumns, relation⟩ := by
  have hmode : modeOf d = .hashProbe := if_pos hequi
  have haccess : accessTo d .hashProbe (.partitioned source) = (.lookup, leftColumns) := by
    simp only [accessTo, hcovering]
  rw [create_eq_ok_iff, hmode, haccess]
  exact ⟨rfl, harity, rfl⟩

/-- Each column of a lookup is paired with the key column in its place. -/
theorem coveringKey_pairs (h : coveringKey d columns = some leftColumns) :
    List.Forall₂ (fun l column => (l, column) ∈ d.leftKeys.zip d.rightKeys)
      leftColumns columns := by
  induction columns generalizing leftColumns with
  | nil =>
      obtain rfl := Option.some.inj h
      exact .nil
  | cons column rest ih =>
      obtain ⟨l, others, rfl, hothers, hpair⟩ := coveringKey_cons h
      exact .cons hpair (ih hothers)

end

variable {stage : JoinStage} {left : Row} {s : ProbeState}

open Probe Run

theorem appends_count (change : Counters → Counters) : Appends (stage.count change) [] := by
  apply appends_nil
  intro s
  obtain ⟨counters, hcount⟩ := stage.count_apply change s
  rw [hcount]

/-- Testing a right row appends the joined row if the right row is accepted. -/
theorem appends_emitIfEqual (left right : Row) :
    Appends (stage.emitIfEqual left right)
      (if stage.descriptor.accepts left right then [left ++ right] else []) := by
  have hpairs : (stage.descriptor.pairTruths left right).all Ternary.isTrue =
      stage.keysMatch left right := List.all_map
  unfold emitIfEqual JoinDescriptor.accepts
  rw [hpairs]
  cases stage.keysMatch left right with
  | false => exact appends_nil fun _ => rfl
  | true =>
      unfold JoinDescriptor.residualHolds
      cases stage.descriptor.residual with
      | none => exact appends_emit (left ++ right)
      | some p =>
          have hholds : Appends (Probe.holds p (left ++ right)) [] := appends_nil fun _ => rfl
          refine hholds.followed fun t s ht => ?_
          have htruth : p.holds (left ++ right) = .ok t := ht
          simp only [htruth, Bool.true_and]
          cases t.isTrue with
          | true => exact appends_emit (left ++ right)
          | false => exact appends_count Counters.residualRejection

/-- Testing a right row does not fail unless the residual does. -/
theorem succeeds_emitIfEqual (left right : Row)
    (h : (∀ truth ∈ stage.descriptor.pairTruths left right, truth = .true) →
      ∃ truth, stage.descriptor.residualHolds (left ++ right) = .ok truth) :
    Succeeds (stage.emitIfEqual left right) := by
  unfold emitIfEqual
  cases hmatch : stage.keysMatch left right with
  | false => exact ends_pure trivial
  | true =>
      obtain ⟨truth, htruth⟩ := h (keysMatch_iff.mp hmatch)
      unfold JoinDescriptor.residualHolds at htruth
      cases hresidual : stage.descriptor.residual with
      | none => exact ends_modify fun _ _ => trivial
      | some p =>
          simp only [hresidual] at htruth
          have hholds : Succeeds (Probe.holds p (left ++ right)) := by
            refine (ends_modify fun _ _ => trivial).bind fun _ _ => ?_
            refine ends_lift (fun _ _ => trivial) fun e he => ?_
            rw [htruth] at he
            cases he
          refine hholds.bind fun t _ => ?_
          cases t.isTrue with
          | true => exact ends_modify fun _ _ => trivial
          | false => exact ends_modify fun _ _ => trivial

def testAnswer (stage : JoinStage) (left : Row) (answer : List Row) : Probe Unit :=
  answer.forM fun right => do
    liftM (stage.expectRight right)
    stage.emitIfEqual left right

/-- Testing the rows of an answer appends the joined rows of those that are accepted. -/
theorem appends_testAnswer (stage : JoinStage) (left : Row) (answer : List Row) :
    Appends (stage.testAnswer left answer) (stage.descriptor.joined left answer) := by
  rw [JoinDescriptor.joined_eq_flatMap]
  apply appends_forM
  intro right
  have hexpected : Appends (liftM (stage.expectRight right)) [] := appends_nil fun _ => rfl
  exact hexpected.followed fun _ _ _ => appends_emitIfEqual left right

/-- An answer can be joined to the left row: its rows have the arity of the right rows, and where
all pairs are equal the residual has a truth. -/
def Joinable (stage : JoinStage) (left : Row) (answer : List Row) : Prop :=
  ∀ right ∈ answer, right.length = stage.descriptor.rightArity ∧
    ((∀ truth ∈ stage.descriptor.pairTruths left right, truth = .true) →
      ∃ truth, stage.descriptor.residualHolds (left ++ right) = .ok truth)

theorem succeeds_testAnswer {answer : List Row} (h : stage.Joinable left answer) :
    Succeeds (stage.testAnswer left answer) := by
  have hall : Ends (fun _ => True) (fun _ => False) (stage.testAnswer left answer)
      fun _ => ∀ right ∈ answer, True := by
    refine ends_forM fun right member => ?_
    obtain ⟨harity, hresidual⟩ := h right member
    have hexpected : Succeeds (liftM (stage.expectRight right) : Probe Unit) := by
      unfold expectRight Row.expectArity
      rw [if_pos harity]
      exact ends_pure trivial
    exact hexpected.bind fun _ _ => succeeds_emitIfEqual left right hresidual
  exact hall.imp fun _ _ => trivial

theorem countEmitted_apply (stage : JoinStage) (before : Nat) (s : ProbeState) :
    ∃ counters, stage.countEmitted before s =
      (.ok (), { s with site := { s.site with counters } }) := by
  unfold countEmitted
  rw [get_bind_apply]
  split
  · exact stage.count_apply _ s
  · exact ⟨s.site.counters, rfl⟩

theorem appends_countEmitted (before : Nat) : Appends (stage.countEmitted before) [] := by
  apply appends_nil
  intro s
  obtain ⟨counters, hcount⟩ := stage.countEmitted_apply before s
  rw [hcount]

theorem succeeds_countEmitted (before : Nat) : Succeeds (stage.countEmitted before) := by
  intro s _
  obtain ⟨counters, hcount⟩ := stage.countEmitted_apply before s
  rw [hcount]
  exact ⟨trivial, fun _ _ => trivial, nofun⟩

theorem lookUp_apply (stage : JoinStage) (source : KeyedSource) (key : List Value)
    (s : ProbeState) :
    ∃ t, stage.lookUp source key s =
      (source.lookup (s.session.calls.of stage.relation).lookups key, t) ∧
        t.emitted = s.emitted := by
  obtain ⟨counters, hcount⟩ := stage.count_apply Counters.lookup s
  unfold lookUp
  rw [bind_apply, hcount]
  exact ⟨_, rfl, rfl⟩

/-- What a stage looks up for a left row. -/
def sought (stage : JoinStage) (left : Row) : List Value :=
  stage.lookupColumns.map fun column => left.getD column .null

section

variable [KeyHasher]

/-- The query is not cancelled, and the left row has its arity. -/
def Checks (stage : JoinStage) (left : Row) (s : ProbeState) : Prop :=
  s.session.check = .ok () ∧ left.length = stage.descriptor.leftArity

theorem probeRow_of_stopped {e : JoinError} (h : s.session.check = .error e) :
    stage.probeRow left s = (.error e, s) := by
  rw [probeRow_eq, bind_apply, Probe.check_apply, h]

theorem probeRow_of_narrow (hcheck : s.session.check = .ok ())
    (hleft : left.length ≠ stage.descriptor.leftArity) :
    stage.probeRow left s =
      (.error (.shape (.arity stage.descriptor.leftArity left.length)), s) := by
  have hrefused : (left.expectArity stage.descriptor.leftArity).mapError JoinError.shape =
      .error (.shape (.arity stage.descriptor.leftArity left.length)) := by
    unfold Row.expectArity
    rw [if_neg hleft]
    rfl
  rw [probeRow_eq, bind_apply, Probe.check_apply, hcheck, hrefused]
  rfl

/-- A probe whose checks do not pass fails and changes nothing. -/
theorem probeRow_of_not_checks (h : ¬ stage.Checks left s) :
    ∃ e, stage.probeRow left s = (.error e, s) := by
  cases hcheck : s.session.check with
  | error e => exact ⟨e, probeRow_of_stopped hcheck⟩
  | ok _ => exact ⟨_, probeRow_of_narrow hcheck fun hleft => h ⟨hcheck, hleft⟩⟩

theorem checks_of_probeRow (h : (stage.probeRow left s).1 = .ok ()) : stage.Checks left s := by
  by_cases hchecks : stage.Checks left s
  · exact hchecks
  · obtain ⟨e, herror⟩ := probeRow_of_not_checks hchecks
    rw [herror] at h
    cases h

/-- A left row with a null in its key issues no call and emits nothing, and its probe succeeds if
its checks pass. -/
theorem probeRow_of_null (hmode : stage.mode = .hashProbe)
    (hkey : stage.descriptor.leftKey left = none) :
    (stage.probeRow left s).2.emitted = s.emitted ∧
      (stage.probeRow left s).2.session.calls = s.session.calls ∧
      (stage.Checks left s → (stage.probeRow left s).1 = .ok ()) := by
  by_cases hchecks : stage.Checks left s
  · obtain ⟨counters, hprobe⟩ := probeRow_of_checked hchecks.1 hchecks.2
    have hjoin : stage.joinLeft left = stage.count Counters.nullKeySkip := by
      simp only [joinLeft, hmode, probeKeyed, hkey]
    obtain ⟨skipped, hskip⟩ := stage.count_apply Counters.nullKeySkip
      { s with site := { s.site with counters } }
    rw [hprobe, hjoin, bind_apply, hskip]
    obtain ⟨last, hlast⟩ := stage.countEmitted_apply s.emitted.size
      { s with site := { s.site with counters := skipped } }
    simp only [hlast]
    exact ⟨trivial, trivial, fun _ => trivial⟩
  · obtain ⟨e, herror⟩ := probeRow_of_not_checks hchecks
    rw [herror]
    exact ⟨rfl, rfl, fun h => absurd h hchecks⟩

section

variable {source : KeyedSource} {key : List Value} (hmode : stage.mode = .hashProbe)
  (haccess : stage.access = .lookup) (hright : stage.right = .partitioned source)
  (hkey : stage.descriptor.leftKey left = some key)

include hmode haccess hright hkey

/-- Once its checks have passed, a probe with a key asks the store and tests the answer. -/
theorem probeRow_asks (hchecks : stage.Checks left s) :
    ∃ t, t.emitted = s.emitted ∧ stage.probeRow left s = (do
      let answer ← liftM
        (source.lookup (s.session.calls.of stage.relation).lookups (stage.sought left))
      stage.testAnswer left answer
      stage.countEmitted s.emitted.size : Probe Unit) t := by
  obtain ⟨counters, hprobe⟩ := probeRow_of_checked hchecks.1 hchecks.2
  have hjoin : stage.joinLeft left = (do
      Probe.check
      let answer ← stage.lookUp source (stage.sought left)
      stage.testAnswer left answer) := by
    simp only [joinLeft, hmode, probeKeyed, hkey, haccess, hright]
    rfl
  have hchecked : Probe.check { s with site := { s.site with counters } } =
      (.ok (), { s with site := { s.site with counters } }) := by
    change (s.session.check, _) = _
    rw [hchecks.1]
  obtain ⟨t, hlookUp, hsame⟩ := stage.lookUp_apply source (stage.sought left)
    { s with site := { s.site with counters } }
  refine ⟨t, hsame, ?_⟩
  rw [hprobe, hjoin, bind_assoc, bind_apply, hchecked]
  simp only [bind_assoc]
  rw [bind_apply, hlookUp, bind_apply]
  rfl

/-- A probe with a key fails without a row, or the store has answered, and the rows are joined
rows of the answer, all of them if the probe succeeds. -/
theorem probeRow_of_key :
    (∃ e, (stage.probeRow left s).1 = .error e) ∧ (stage.probeRow left s).2.emitted = s.emitted ∨
    ∃ answer emitted,
      source.lookup (s.session.calls.of stage.relation).lookups (stage.sought left) = .ok answer ∧
      (stage.probeRow left s).2.emitted.toList = s.emitted.toList ++ emitted ∧
      emitted <+: stage.descriptor.joined left answer ∧
      ((stage.probeRow left s).1 = .ok () → emitted = stage.descriptor.joined left answer) := by
  by_cases hchecks : stage.Checks left s
  case neg =>
    obtain ⟨e, herror⟩ := probeRow_of_not_checks hchecks
    rw [herror]
    exact Or.inl ⟨⟨e, rfl⟩, rfl⟩
  obtain ⟨t, hsame, hprobe⟩ := probeRow_asks hmode haccess hright hkey hchecks
  rw [hprobe]
  cases source.lookup (s.session.calls.of stage.relation).lookups (stage.sought left) with
  | error e => exact Or.inl ⟨⟨e, rfl⟩, hsame⟩
  | ok answer =>
      right
      have hall := (stage.appends_testAnswer left answer).bind fun _ _ _ =>
        stage.appends_countEmitted s.emitted.size
      rw [List.append_nil] at hall
      obtain ⟨emitted, hemitted, hfront, hlast⟩ := hall t
      rw [hsame] at hemitted
      exact ⟨answer, emitted, rfl, hemitted, hfront, hlast ()⟩

/-- A probe with a key succeeds if its checks pass and the answer can be joined. -/
theorem probeRow_succeeds (hchecks : stage.Checks left s) {answer : List Row}
    (hanswer : source.lookup (s.session.calls.of stage.relation).lookups (stage.sought left) =
      .ok answer) (hjoinable : stage.Joinable left answer) :
    (stage.probeRow left s).1 = .ok () := by
  obtain ⟨t, -, hprobe⟩ := probeRow_asks hmode haccess hright hkey hchecks
  have hall : Succeeds (do
      stage.testAnswer left answer
      stage.countEmitted s.emitted.size) :=
    (succeeds_testAnswer hjoinable).bind fun _ _ => stage.succeeds_countEmitted s.emitted.size
  rw [hprobe, hanswer]
  exact hall.eq_ok t

end

/-- Joining by lookup is sound over any store and complete over an honest one. A stage whose pairs
cover the key of a store looks the store up, with a left column for each key column that some pair
equates with it. Whatever state a probe starts in and however it ends, each row it emits joins the
left row to a row of the store's answer on which all pairs are equal and the residual is true. A
left row with a null in a pair issues no call and emits nothing. And a probe that succeeds over a
store that serves its rows emits every stored row on which the pairs are equal and the residual is
true, as often as it is stored; it does succeed if its checks pass and the answer can be joined. -/
theorem probeRow_by_lookup {condition : Expr} {leftArity rightArity : Nat} {d : JoinDescriptor}
    {source : KeyedSource}
    (hclassify : JoinDescriptor.classify condition leftArity rightArity = .ok d)
    (hequi : d.isEqui = true) (harity : source.arity = rightArity)
    (hcovered : ∀ column ∈ source.keyColumns, column ∈ d.rightKeys) (config : JoinConfig)
    (relation : Nat) :
    ∃ stage, create d (.partitioned source) config relation = .ok stage ∧
      stage.access = .lookup ∧
      List.Forall₂ (fun l column => (l, column) ∈ d.leftKeys.zip d.rightKeys)
        stage.lookupColumns source.keyColumns ∧
      ∀ left s,
        let n := (s.session.calls.of relation).lookups
        let key := stage.lookupColumns.map fun column => left.getD column .null
        let outcome := (stage.probeRow left s).1
        let t := (stage.probeRow left s).2
        ∃ emitted, t.emitted.toList = s.emitted.toList ++ emitted ∧
          (∀ row ∈ emitted, ∃ answer right, source.lookup n key = .ok answer ∧ right ∈ answer ∧
            row = left ++ right ∧ (∀ truth ∈ d.pairTruths left right, truth = .true) ∧
            d.residualHolds (left ++ right) = .ok .true) ∧
          ((∃ column ∈ d.leftKeys, left[column]? = some .null) →
            emitted = [] ∧ t.session.calls = s.session.calls) ∧
          (∀ stored, source.Serves stored n key → outcome = .ok () → ∀ right ∈ stored,
            (∀ truth ∈ d.pairTruths left right, truth = .true) →
            d.residualHolds (left ++ right) = .ok .true →
              emitted.count (left ++ right) = stored.count right) ∧
          (stage.Checks left s → ∀ answer, source.lookup n key = .ok answer →
            stage.Joinable left answer → outcome = .ok ()) := by
  have hpaired := JoinDescriptor.keys_length_of_classify hclassify
  have hwidth : source.arity = d.rightArity := by
    rw [JoinDescriptor.eq_of_classify hclassify]
    exact harity
  obtain ⟨columns, hcovering⟩ := exists_coveringKey hpaired hcovered
  have hcreate := create_lookup hequi hwidth hcovering config relation
  let stage : JoinStage := ⟨d, .partitioned source, config, .hashProbe, .lookup, columns, relation⟩
  have hmade : stage.Made := (made_of_create hclassify hcreate).1
  refine ⟨stage, hcreate, rfl, coveringKey_pairs hcovering, fun left s => ?_⟩
  intro n key outcome t
  cases hkey : stage.descriptor.leftKey left with
  | none =>
      obtain ⟨hemitted, hcalls, hdone⟩ := probeRow_of_null rfl hkey
      refine ⟨[], ?_, nofun, fun _ => ⟨rfl, hcalls⟩, ?_, fun hchecks _ _ _ => hdone hchecks⟩
      · rw [List.append_nil]
        exact congrArg Array.toList hemitted
      · -- a row whose pairs are equal to those of another has a key
        intro stored _ hok right _ hpairs _
        have hmatch : stage.keysMatch left right = true := keysMatch_iff.mpr hpairs
        rw [leftKey_of_keysMatch hmade (checks_of_probeRow hok).2 hmatch] at hkey
        cases hkey
  | some values =>
      have hnull : ¬ ∃ column ∈ d.leftKeys, left[column]? = some .null := by
        rintro ⟨column, hcolumn, hnull⟩
        have hnone := Row.key_eq_none hcolumn hnull
        exact Option.some_ne_none values (hkey.symm.trans hnone)
      have hdone (hchecks : stage.Checks left s) (answer : List Row)
          (hanswer : source.lookup n key = .ok answer) (hjoinable : stage.Joinable left answer) :
          outcome = .ok () :=
        probeRow_succeeds rfl rfl rfl hkey hchecks hanswer hjoinable
      rcases probeRow_of_key rfl rfl rfl hkey with
        ⟨⟨e, herror⟩, hemitted⟩ | ⟨answer, emitted, hanswer, hemitted, hfront, hall⟩
      · refine ⟨[], ?_, nofun, fun h => absurd h hnull, fun stored _ hok => ?_, hdone⟩
        · rw [List.append_nil]
          exact congrArg Array.toList hemitted
        · have hboth : Except.error e = .ok () := herror.symm.trans hok
          cases hboth
      · refine ⟨emitted, hemitted, fun row member => ?_, fun h => absurd h hnull, ?_, hdone⟩
        · obtain ⟨right, hright, haccepts, rfl⟩ :=
            JoinDescriptor.mem_joined.mp (hfront.subset member)
          exact ⟨answer, right, hanswer, hright, rfl, JoinDescriptor.accepts_iff.mp haccepts⟩
        · intro stored hserves hok right member hpairs hresidual
          have haccepts := JoinDescriptor.accepts_iff.mpr ⟨hpairs, hresidual⟩
          have hmatch : stage.keysMatch left right = true := keysMatch_iff.mpr hpairs
          rw [hall hok, JoinDescriptor.count_joined haccepts]
          exact hserves answer hanswer right member (coveringKey_covers hcovering hmatch)

end

/-- The store has its key columns in another order than the pairs, two pairs share a left column
and two a right one, and the store gives a row too many. That row is not emitted, a stored row
that matches is, once, and a null in the left row keeps the store from being asked. -/
theorem probeRow_by_permuted_lookup :
    let condition : Expr := .and [.columnsEqual 0 2, .and [.columnsEqual 1 4, .columnsEqual 4 0],
      .isNotNull (.column 3)]
    let partner : Row := [.int32 1, .string "a", .int64 1]
    let stored : List Row :=
      [[.int32 1, .null, .int64 1], partner, [.int32 2, .string "b", .int64 1]]
    let stray : Row := [.int32 9, .string "c", .int32 1]
    let source : KeyedSource := ⟨"r", 3, [2, 0], 1, fun _ => .ok stored,
      fun _ key => .ok (stray :: stored.filter (RightRelation.rowMatches [2, 0] key))⟩
    let left : Row := [.int64 1, .float64 (Double.ofInt 1)]
    let start : ProbeState := ⟨{}, {}, #[]⟩
    ∃ d stage, JoinDescriptor.classify condition 2 3 = .ok d ∧ d.isEqui = true ∧
      (∀ column ∈ source.keyColumns, column ∈ d.rightKeys) ∧
      d.leftKeys.zip d.rightKeys = [(0, 0), (1, 2), (0, 2)] ∧
      create d (.partitioned source) {} 0 = .ok stage ∧ stage.lookupColumns = [1, 0] ∧
      (stage.probeRow left start).1 = .ok () ∧
      ((stage.probeRow left start).2.emitted.toList).count (left ++ partner) = 1 ∧
      left ++ stray ∉ (stage.probeRow left start).2.emitted.toList ∧
      (stage.probeRow [.null, .int32 1] start).2.session.calls = [] := by
  intro condition partner stored stray source left start
  let d : JoinDescriptor :=
    ⟨[0, 1, 0], [0, 2, 2], some (.isNotNull (.column 3)), condition, 2, 3⟩
  have hclassify : JoinDescriptor.classify condition 2 3 = .ok d := rfl
  have hcovered : ∀ column ∈ source.keyColumns, column ∈ d.rightKeys := by decide
  obtain ⟨stage, hcreate, -, -, hprobe⟩ := probeRow_by_lookup hclassify rfl rfl hcovered {} 0
  have hstage : stage = ⟨d, .partitioned source, {}, .hashProbe, .lookup, [1, 0], 0⟩ :=
    (Except.ok.inj hcreate).symm
  obtain ⟨emitted, hemitted, hsound, -, hcomplete, -⟩ := hprobe left start
  obtain ⟨_, -, -, hnull, -⟩ := hprobe [.null, .int32 1] start
  have hok : (stage.probeRow left start).1 = .ok () := by
    rw [hstage]
    exact eq_ok_of_toBool (by decide +kernel)
  have hserves (n : Nat) (key : List Value) : source.Serves stored n key := by
    intro answer hanswer right member hmatches
    obtain rfl := Except.ok.inj hanswer
    have hstray : stray ≠ right := fun h => absurd (h ▸ member) (by decide)
    rw [List.count_cons_of_ne hstray, List.count_filter hmatches]
  refine ⟨d, stage, hclassify, rfl, hcovered, rfl, hcreate, by rw [hstage], hok, ?_, ?_, ?_⟩
  · rw [hemitted]
    exact hcomplete stored (hserves _ _) hok partner (by decide) (by decide +kernel) rfl
  · rw [hemitted]
    intro member
    obtain ⟨_, right, -, -, hjoined, hpairs, -⟩ := hsound _ member
    rw [← List.append_cancel_left hjoined] at hpairs
    exact absurd hpairs (by decide +kernel)
  · exact (hnull ⟨0, by decide, rfl⟩).2

end JoinStage

end JoinEngine
