import Mathlib.Data.List.Zip
import JoinEngine.Exec.Stage
import JoinEngine.Proofs.Condition.Meaning
import JoinEngine.Proofs.Relation.Steady

/-!
Rows that match by key. A stage made of a split condition relies on three things about a left
and a right row whose pairs of columns are all equal: neither key has a null, the two keys hash
alike, and the right row is among those a lookup of the covering key asks for.
-/

namespace JoinEngine

/-- A key without nulls, of columns that are there, is made of the values of the columns. -/
theorem Row.key_eq_some {row : Row} {columns : List Nat} (hcolumns : ∀ c ∈ columns, c < row.length)
    (hnull : (columns.map fun c => row.getD c .null).any Value.isNull = false) :
    row.key columns = some (columns.map fun c => row.getD c .null) := by
  induction columns with
  | nil => rfl
  | cons c rest ih =>
      have hc : c < row.length := hcolumns c List.mem_cons_self
      rw [List.map_cons, List.any_cons, Bool.or_eq_false_iff] at hnull
      have hrest := ih (fun other member => hcolumns other (List.mem_cons_of_mem c member)) hnull.2
      have hvalue : row.getD c .null = row[c] := by
        rw [List.getD_eq_getElem?_getD, List.getElem?_eq_getElem hc, Option.getD_some]
      unfold Row.key
      rw [List.getElem?_eq_getElem hc]
      simp only
      rw [if_neg (by rw [← hvalue, hnull.1]; decide), hrest, List.map_cons, hvalue]
      rfl

namespace JoinStage

/-- The stage was made of a split condition and a relation as wide as its right rows. -/
structure Made (stage : JoinStage) : Prop where
  classified : JoinDescriptor.classify stage.descriptor.condition stage.descriptor.leftArity
    stage.descriptor.rightArity = .ok stage.descriptor
  arity : stage.right.arity = stage.descriptor.rightArity
  mode : stage.mode = modeOf stage.descriptor
  access : (stage.access, stage.lookupColumns) =
    accessTo stage.descriptor stage.mode stage.right

/-- Every stage that is created over a split condition is made so, of the given parts. -/
theorem made_of_create {condition : Expr} {leftArity rightArity : Nat} {d : JoinDescriptor}
    {right : RightRelation} {config : JoinConfig} {relation : Nat} {stage : JoinStage}
    (hclassify : JoinDescriptor.classify condition leftArity rightArity = .ok d)
    (hcreate : create d right config relation = .ok stage) :
    stage.Made ∧ stage.descriptor.condition = condition ∧
      stage.descriptor.leftArity = leftArity ∧ stage.descriptor.rightArity = rightArity ∧
      stage.right = right ∧ stage.config = config := by
  have hcondition : d.condition = condition := by rw [JoinDescriptor.eq_of_classify hclassify]
  have hleft : d.leftArity = leftArity := by rw [JoinDescriptor.eq_of_classify hclassify]
  have hright : d.rightArity = rightArity := by rw [JoinDescriptor.eq_of_classify hclassify]
  unfold create at hcreate
  split at hcreate
  · cases hcreate
  split at hcreate
  · cases hcreate
  next harity =>
    obtain rfl := Except.ok.inj hcreate
    refine ⟨⟨?_, Decidable.not_not.mp harity, rfl, rfl⟩, hcondition, hleft, hright, rfl, rfl⟩
    rw [hcondition, hleft, hright]
    exact hclassify

section

variable {stage : JoinStage} {left right : Row}

theorem keysMatch_iff :
    stage.keysMatch left right = true ↔
      ∀ t ∈ stage.descriptor.pairTruths left right, t = .true := by
  unfold keysMatch JoinDescriptor.pairTruths
  rw [List.all_eq_true, List.forall_mem_map]
  exact forall₂_congr fun pair _ => Ternary.isTrue_iff _

/-- The values of the paired columns of rows that match have the same atoms, and none is null. -/
theorem values_of_keysMatch (hmade : stage.Made) (hmatch : stage.keysMatch left right = true) :
    let lefts := stage.descriptor.leftKeys.map fun c => left.getD c .null
    let rights := stage.descriptor.rightKeys.map fun c => right.getD c .null
    keyAtoms lefts = keyAtoms rights ∧ lefts.any Value.isNull = false ∧
      rights.any Value.isNull = false := by
  have hpaired := JoinDescriptor.keys_length_of_classify hmade.classified
  apply keys_of_all_equal
  · simpa using hpaired
  · rw [List.zip_map, List.all_map]
    exact hmatch

theorem leftKey_of_keysMatch (hmade : stage.Made)
    (hleft : left.length = stage.descriptor.leftArity)
    (hmatch : stage.keysMatch left right = true) :
    stage.descriptor.leftKey left =
      some (stage.descriptor.leftKeys.map fun c => left.getD c .null) := by
  apply Row.key_eq_some
  · rw [hleft]
    exact JoinDescriptor.leftKeys_lt hmade.classified
  · exact (values_of_keysMatch hmade hmatch).2.1

/-- Rows that match have keys without nulls, and the keys hash alike. -/
theorem keys_of_keysMatch [KeyHasher] (hmade : stage.Made)
    (hleft : left.length = stage.descriptor.leftArity)
    (hright : right.length = stage.descriptor.rightArity)
    (hmatch : stage.keysMatch left right = true) :
    ∃ leftKey rightKey, stage.descriptor.leftKey left = some leftKey ∧
      stage.descriptor.rightKey right = some rightKey ∧ hashKey leftKey = hashKey rightKey := by
  obtain ⟨hatoms, -, hrightNull⟩ := values_of_keysMatch hmade hmatch
  refine ⟨_, _, leftKey_of_keysMatch hmade hleft hmatch, Row.key_eq_some ?_ hrightNull, ?_⟩
  · rw [hright]
    exact JoinDescriptor.rightKeys_lt hmade.classified
  · rw [hashKey_eq_atoms, hashKey_eq_atoms, hatoms]

/-- Each key column of a covered key has its left column, which a pair equates with it. -/
theorem coveringKey_cons {d : JoinDescriptor} {column : Nat} {rest leftColumns : List Nat}
    (h : coveringKey d (column :: rest) = some leftColumns) :
    ∃ l others, leftColumns = l :: others ∧ coveringKey d rest = some others ∧
      (l, column) ∈ d.leftKeys.zip d.rightKeys := by
  unfold coveringKey at h
  cases hfirst : (d.rightKeys.zip d.leftKeys).lookup column with
  | none => simp [hfirst] at h
  | some l =>
      simp only [hfirst, Option.map_eq_some_iff] at h
      obtain ⟨others, hothers, rfl⟩ := h
      refine ⟨l, others, rfl, hothers, ?_⟩
      rw [← List.zip_swap]
      obtain ⟨before, after, hsplit, -⟩ := List.lookup_eq_some_iff.mp hfirst
      exact List.mem_map.mpr ⟨(column, l), by simp [hsplit], rfl⟩

theorem coveringKey_length {d : JoinDescriptor} {columns leftColumns : List Nat}
    (h : coveringKey d columns = some leftColumns) : leftColumns.length = columns.length := by
  induction columns generalizing leftColumns with
  | nil =>
      obtain rfl := Option.some.inj h
      rfl
  | cons column rest ih =>
      obtain ⟨l, others, rfl, hothers, -⟩ := coveringKey_cons h
      rw [List.length_cons, List.length_cons, ih hothers]

/-- A left row asks with the covering key for every right row it matches. -/
theorem coveringKey_covers {columns leftColumns : List Nat}
    (h : coveringKey stage.descriptor columns = some leftColumns)
    (hmatch : stage.keysMatch left right = true) :
    RightRelation.rowMatches columns
      (leftColumns.map fun column => left.getD column .null) right = true := by
  induction columns generalizing leftColumns with
  | nil =>
      obtain rfl := Option.some.inj h
      rfl
  | cons column rest ih =>
      obtain ⟨l, others, rfl, hothers, hpair⟩ := coveringKey_cons h
      have hequal := List.all_eq_true.mp hmatch _ hpair
      unfold RightRelation.rowMatches
      rw [List.map_cons, List.zip_cons_cons, List.all_cons, Bool.and_eq_true]
      refine ⟨?_, ih hothers⟩
      simp only
      rw [Value.sqlEquals_comm]
      exact hequal

end

section

variable {stage : JoinStage}

/-- A stage that looks rows up matches by key and is over a store whose key the pairs cover. -/
theorem Made.lookup_source (hmade : stage.Made) (haccess : stage.access = .lookup) :
    ∃ source, stage.right = .partitioned source ∧ stage.mode = .hashProbe ∧
      coveringKey stage.descriptor source.keyColumns = some stage.lookupColumns := by
  have hboth := hmade.access
  rw [haccess] at hboth
  unfold accessTo at hboth
  split at hboth
  · cases hboth
  · cases hboth
  next source hright =>
    split at hboth
    next columns hmode hcovering =>
      obtain ⟨-, rfl⟩ := Prod.mk.inj hboth
      exact ⟨source, hright, hmode, hcovering⟩
    · cases hboth

end

end JoinStage

end JoinEngine
