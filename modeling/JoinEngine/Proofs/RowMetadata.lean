import JoinEngine.RowMetadata
import Mathlib.Data.List.Nodup

/-!
Metadata that tells its columns apart. Columns are checked one after the other, each against the
names before it, so the fault that is reported is that of the first column with one, and columns
without any have names that differ. A name then finds its column's position, and only that.
-/

namespace JoinEngine

namespace RowMetadata

def namesBefore (columns : List ColumnMetadata) (i : Nat) : List String :=
  (columns.take i).map (·.name)

/-- What is wrong with the column at a position: it has no name, or that of a column before it. -/
inductive FaultAt (columns : List ColumnMetadata) (i : Nat) : MetadataFault → Prop where
  | unnamed {column : ColumnMetadata} :
      columns[i]? = some column → column.name = "" → FaultAt columns i (.unnamed i)
  | duplicate {column : ColumnMetadata} :
      columns[i]? = some column → column.name ∈ namesBefore columns i →
      FaultAt columns i (.duplicate column.name)

section

variable {columns : List ColumnMetadata} {i : Nat}

theorem mem_namesBefore {name : String} :
    name ∈ namesBefore columns i ↔ ∃ j < i, (columns.map (·.name))[j]? = some name := by
  unfold namesBefore
  rw [List.map_take, List.mem_take_iff_getElem]
  constructor
  · rintro ⟨j, hj, hname⟩
    exact ⟨j, by omega, List.getElem?_eq_some_iff.mpr ⟨by omega, hname⟩⟩
  · rintro ⟨j, hj, hname⟩
    obtain ⟨hlength, hname⟩ := List.getElem?_eq_some_iff.mp hname
    exact ⟨j, by omega, hname⟩

/-- Columns have no fault anywhere if they are named, and each in its own way. -/
theorem forall_not_faultAt_iff :
    (∀ i fault, ¬ FaultAt columns i fault) ↔
      (∀ column ∈ columns, column.name ≠ "") ∧ (columns.map (·.name)).Nodup := by
  rw [List.nodup_iff_getElem?_ne_getElem?]
  constructor
  · intro hnone
    refine ⟨fun column hmem hname => ?_, fun j i hj hi hsame => ?_⟩
    · obtain ⟨i, hcolumn⟩ := List.getElem?_of_mem hmem
      exact hnone i _ (.unnamed hcolumn hname)
    · rw [List.length_map] at hi
      have hcolumn : columns[i]? = some columns[i] := List.getElem?_eq_getElem hi
      refine hnone i _ (.duplicate hcolumn (mem_namesBefore.mpr ⟨j, hj, ?_⟩))
      rw [hsame, List.getElem?_map, hcolumn]
      rfl
  · rintro ⟨hnamed, hdistinct⟩ i fault hfault
    cases hfault with
    | unnamed hcolumn hname => exact hnamed _ (List.mem_of_getElem? hcolumn) hname
    | duplicate hcolumn hname =>
        obtain ⟨j, hj, hearlier⟩ := mem_namesBefore.mp hname
        obtain ⟨hi, -⟩ := List.getElem?_eq_some_iff.mp hcolumn
        refine hdistinct j i hj ((List.length_map _).symm ▸ hi) ?_
        rw [hearlier, List.getElem?_map, hcolumn]
        rfl

/-- The check of one column. -/
theorem fault?_drop {column : ColumnMetadata} (h : columns[i]? = some column) :
    fault? (namesBefore columns i) (columns.drop i) =
      if column.name = "" then some (.unnamed i)
      else if column.name ∈ namesBefore columns i then some (.duplicate column.name)
      else fault? (namesBefore columns (i + 1)) (columns.drop (i + 1)) := by
  obtain ⟨hi, rfl⟩ := List.getElem?_eq_some_iff.mp h
  have hnames : namesBefore columns (i + 1) = namesBefore columns i ++ [columns[i].name] := by
    unfold namesBefore
    rw [← List.take_append_getElem hi, List.map_append]
    rfl
  have hlength : (namesBefore columns i).length = i := by
    unfold namesBefore
    rw [List.length_map, List.length_take, Nat.min_eq_left (Nat.le_of_lt hi)]
  rw [hnames, List.drop_eq_getElem_cons hi]
  conv_lhs => unfold fault?
  simp only [hlength, String.isEmpty_iff, List.contains_iff_mem]

/-- The check goes on behind columns without a fault. -/
theorem fault?_of_passed (hpassed : ∀ j < i, ∀ fault, ¬ FaultAt columns j fault)
    (hi : i ≤ columns.length) :
    fault? [] columns = fault? (namesBefore columns i) (columns.drop i) := by
  induction i with
  | zero => rfl
  | succ i ih =>
      have hcolumn : columns[i]? = some columns[i] := List.getElem?_eq_getElem hi
      have hnamed : columns[i].name ≠ "" := fun hname =>
        hpassed i (Nat.lt_succ_self i) _ (.unnamed hcolumn hname)
      have hnew : columns[i].name ∉ namesBefore columns i := fun hname =>
        hpassed i (Nat.lt_succ_self i) _ (.duplicate hcolumn hname)
      rw [ih (fun j hj => hpassed j (Nat.lt_succ_of_lt hj)) (Nat.le_of_succ_le hi),
        fault?_drop hcolumn, if_neg hnamed, if_neg hnew]

/-- The check stops at the first column with a fault, and reports that. -/
theorem fault?_of_first {fault : MetadataFault} (h : FaultAt columns i fault)
    (hfirst : ∀ j < i, ∀ other, ¬ FaultAt columns j other) : fault? [] columns = some fault := by
  cases h with
  | unnamed hcolumn hname =>
      obtain ⟨hi, -⟩ := List.getElem?_eq_some_iff.mp hcolumn
      rw [fault?_of_passed hfirst (Nat.le_of_lt hi), fault?_drop hcolumn, if_pos hname]
  | duplicate hcolumn hname =>
      obtain ⟨hi, -⟩ := List.getElem?_eq_some_iff.mp hcolumn
      rw [fault?_of_passed hfirst (Nat.le_of_lt hi), fault?_drop hcolumn, if_pos hname, if_neg]
      -- a repeated name is not empty, or the earlier column would have stopped the check
      intro hempty
      obtain ⟨j, hj, hearlier⟩ := mem_namesBefore.mp hname
      rw [List.getElem?_map, Option.map_eq_some_iff] at hearlier
      obtain ⟨earlier, hat, hsame⟩ := hearlier
      exact hfirst j hj _ (.unnamed hat (hsame.trans hempty))

theorem fault?_of_none (h : ∀ i fault, ¬ FaultAt columns i fault) : fault? [] columns = none := by
  rw [fault?_of_passed (fun j _ => h j) (Nat.le_refl columns.length), List.drop_length]
  rfl

theorem exists_first_faultAt {fault : MetadataFault} (h : FaultAt columns i fault) :
    ∃ j first, FaultAt columns j first ∧ ∀ k < j, ∀ other, ¬ FaultAt columns k other := by
  induction i using Nat.strongRecOn generalizing fault with
  | ind i ih =>
      by_cases hfirst : ∀ j < i, ∀ other, ¬ FaultAt columns j other
      · exact ⟨i, fault, h, hfirst⟩
      · simp only [not_forall, not_not] at hfirst
        obtain ⟨j, hj, other, hother⟩ := hfirst
        exact ih j hj hother

theorem fault?_eq_none_iff :
    fault? [] columns = none ↔ ∀ i fault, ¬ FaultAt columns i fault := by
  refine ⟨fun h i fault hfault => ?_, fault?_of_none⟩
  obtain ⟨j, other, hother, hfirst⟩ := exists_first_faultAt hfault
  cases h.symm.trans (fault?_of_first hother hfirst)

theorem fault?_eq_some_iff {fault : MetadataFault} :
    fault? [] columns = some fault ↔
      ∃ i, FaultAt columns i fault ∧ ∀ j < i, ∀ other, ¬ FaultAt columns j other := by
  refine ⟨fun h => ?_, fun ⟨i, hfault, hfirst⟩ => fault?_of_first hfault hfirst⟩
  by_cases hnone : ∀ i fault, ¬ FaultAt columns i fault
  · cases h.symm.trans (fault?_of_none hnone)
  · simp only [not_forall, not_not] at hnone
    obtain ⟨i, other, hother⟩ := hnone
    obtain ⟨j, first, hfault, hfirst⟩ := exists_first_faultAt hother
    obtain rfl := Option.some.inj (h.symm.trans (fault?_of_first hfault hfirst))
    exact ⟨j, hfault, hfirst⟩

theorem ofColumns_eq_ok_iff {m : RowMetadata} :
    ofColumns columns = .ok m ↔ fault? [] columns = none ∧ m.columns = columns := by
  unfold ofColumns
  cases fault? [] columns with
  | none =>
      refine ⟨fun h => ⟨rfl, by rw [← Except.ok.inj h]⟩, ?_⟩
      rintro ⟨-, rfl⟩
      rfl
  | some fault => exact ⟨nofun, fun h => nomatch h.1⟩

theorem ofColumns_eq_error_iff {error : ShapeError} :
    ofColumns columns = .error error ↔
      ∃ fault, fault? [] columns = some fault ∧ error = .metadata fault := by
  unfold ofColumns
  cases fault? [] columns with
  | none => exact ⟨nofun, fun ⟨_, h, _⟩ => nomatch h⟩
  | some fault =>
      refine ⟨fun h => ⟨fault, rfl, (Except.error.inj h).symm⟩, ?_⟩
      rintro ⟨other, hsame, rfl⟩
      rw [Option.some.inj hsame]

/-- Accepted columns are those of the metadata, are named, and have no name twice. -/
theorem eq_of_ofColumns {m : RowMetadata} (h : ofColumns columns = .ok m) :
    m.columns = columns ∧ (∀ name ∈ m.columns.map (·.name), name ≠ "") ∧
      (m.columns.map (·.name)).Nodup := by
  obtain ⟨hfault, rfl⟩ := ofColumns_eq_ok_iff.mp h
  obtain ⟨hnamed, hdistinct⟩ := forall_not_faultAt_iff.mp (fault?_eq_none_iff.mp hfault)
  exact ⟨rfl, List.forall_mem_map.mpr hnamed, hdistinct⟩

end

/-- Among names that differ, a name finds the one column that has it. -/
theorem find?_eq_some_iff {m : RowMetadata} (hdistinct : (m.columns.map (·.name)).Nodup)
    {name : String} {i : Nat} :
    m.find? name = some i ↔ ∃ column, m.column? i = some column ∧ column.name = name := by
  unfold find? column?
  rw [List.findIdx?_eq_some_iff_getElem]
  constructor
  · rintro ⟨hi, hname, -⟩
    exact ⟨m.columns[i], List.getElem?_eq_getElem hi, beq_iff_eq.mp hname⟩
  · rintro ⟨column, hcolumn, rfl⟩
    obtain ⟨hi, rfl⟩ := List.getElem?_eq_some_iff.mp hcolumn
    refine ⟨hi, beq_self_eq_true _, fun j hj hsame => ?_⟩
    have hi' : i < (m.columns.map (·.name)).length := (List.length_map _).symm ▸ hi
    refine List.nodup_iff_getElem?_ne_getElem?.mp hdistinct j i hj hi' ?_
    rw [List.getElem?_map, List.getElem?_map, List.getElem?_eq_getElem hi,
      List.getElem?_eq_getElem (Nat.lt_trans hj hi)]
    exact congrArg some (beq_iff_eq.mp hsame)

/-- Accepted metadata tells its columns apart by name. Columns are accepted if and only if all are
named and no name is there twice; otherwise the error is the fault of the first position that has
one, which gives the position of a column without a name and the name of a repeated one. In accepted
metadata, which has the columns as they were given, a name finds a position if and only if the
column there has the name. -/
theorem ofColumns_tells_apart (columns : List ColumnMetadata) :
    ((∃ m, ofColumns columns = .ok m) ↔
        (∀ column ∈ columns, column.name ≠ "") ∧ (columns.map (·.name)).Nodup) ∧
      (∀ error, ofColumns columns = .error error ↔
        ∃ i fault, FaultAt columns i fault ∧ (∀ j < i, ∀ other, ¬ FaultAt columns j other) ∧
          error = .metadata fault) ∧
      ∀ m, ofColumns columns = .ok m → m.columns = columns ∧
        ∀ name i, m.find? name = some i ↔
          ∃ column, m.column? i = some column ∧ column.name = name := by
  refine ⟨?_, fun error => ?_, fun m hm => ?_⟩
  · rw [← forall_not_faultAt_iff, ← fault?_eq_none_iff]
    exact ⟨fun ⟨m, hm⟩ => (ofColumns_eq_ok_iff.mp hm).1, fun hnone =>
      ⟨⟨columns⟩, ofColumns_eq_ok_iff.mpr ⟨hnone, rfl⟩⟩⟩
  · rw [ofColumns_eq_error_iff]
    constructor
    · rintro ⟨fault, hsome, herror⟩
      obtain ⟨i, hfault, hfirst⟩ := fault?_eq_some_iff.mp hsome
      exact ⟨i, fault, hfault, hfirst, herror⟩
    · rintro ⟨i, fault, hfault, hfirst, herror⟩
      exact ⟨fault, fault?_of_first hfault hfirst, herror⟩
  · obtain ⟨hcolumns, -, hdistinct⟩ := eq_of_ofColumns hm
    exact ⟨hcolumns, fun name i => find?_eq_some_iff hdistinct⟩

/-- Two names that differ in case are told apart; a third one that repeats the first is reported
before the column behind it, which has none. -/
theorem ofColumns_tells_two_apart :
    let column (name : String) : ColumnMetadata := ⟨name, .int⟩
    (∃ m, ofColumns [column "v", column "V"] = .ok m ∧ m.find? "V" = some 1 ∧
        m.column? 1 = some (column "V")) ∧
      ofColumns [column "v", column "V", column "v", column ""] =
        .error (.metadata (.duplicate "v")) := by
  intro column
  obtain ⟨haccepted, -, hfound⟩ := ofColumns_tells_apart [column "v", column "V"]
  obtain ⟨m, hm⟩ := haccepted.mpr (by decide)
  obtain ⟨hcolumns, hfinds⟩ := hfound m hm
  have hat : m.column? 1 = some (column "V") := by
    unfold column?
    rw [hcolumns]
    rfl
  exact ⟨⟨m, hm, (hfinds "V" 1).mpr ⟨_, hat, rfl⟩, hat⟩, rfl⟩

end RowMetadata

end JoinEngine
