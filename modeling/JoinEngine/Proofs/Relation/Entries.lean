import JoinEngine.Relation.KeyedMap

/-!
The entries of one partition as a finite map from atoms to rows. Changing an entry changes what
is read under its atoms and nothing else. In a partition whose entries are told apart by their
atoms and hold only rows of these atoms, the rows of an entry are the partition's rows with that
key, in order.
-/

namespace JoinEngine

namespace KeyedEntries

variable {entries : KeyedEntries} {key : Row → List (Option KeyAtom)}

theorem rows_modify (entries : KeyedEntries) (atoms other : List (Option KeyAtom))
    (change : List Row → List Row) :
    (entries.modify atoms change).rows other =
      if other = atoms then change (entries.rows atoms) else entries.rows other := by
  induction entries with
  | nil =>
      by_cases hother : other = atoms
      · subst other
        simp [modify, rows]
      · simp [modify, rows, hother, Ne.symm hother]
  | cons entry rest ih =>
      obtain ⟨own, stored⟩ := entry
      by_cases hown : own = atoms
      · subst own
        by_cases hother : other = atoms
        · simp [modify, rows, hother]
        · simp [modify, rows, hother, Ne.symm hother]
      · by_cases hother : own = other
        · subst own
          simp [modify, rows, hown]
        · simp [modify, rows, hown, hother, ih]

theorem rows_of_not_mem {atoms : List (Option KeyAtom)}
    (h : atoms ∉ entries.map Prod.fst) : entries.rows atoms = [] := by
  induction entries with
  | nil => rfl
  | cons entry rest ih =>
      obtain ⟨own, stored⟩ := entry
      simp only [List.map_cons, List.mem_cons, not_or] at h
      simp [rows, Ne.symm h.1, ih h.2]

/-- Entries are told apart by their atoms, and a row lies in the entry of its own key. -/
structure Keyed (entries : KeyedEntries) (key : Row → List (Option KeyAtom)) : Prop where
  distinct : (entries.map Prod.fst).Nodup
  own : ∀ entry ∈ entries, ∀ row ∈ entry.2, key row = entry.1

theorem keyed_nil (key : Row → List (Option KeyAtom)) : Keyed [] key :=
  ⟨List.nodup_nil, by simp⟩

theorem Keyed.tail {entry : List (Option KeyAtom) × List Row}
    (h : Keyed (entry :: entries) key) : entries.Keyed key :=
  ⟨(List.nodup_cons.mp h.distinct).2, fun e member => h.own e (List.mem_cons_of_mem _ member)⟩

theorem fst_of_mem_modify {atoms : List (Option KeyAtom)} {change : List Row → List Row}
    {other : List (Option KeyAtom)}
    (h : other ∈ (entries.modify atoms change).map Prod.fst) :
    other = atoms ∨ other ∈ entries.map Prod.fst := by
  induction entries with
  | nil => simpa [modify] using h
  | cons entry rest ih =>
      obtain ⟨own, stored⟩ := entry
      unfold modify at h
      split at h
      next => exact Or.inr (by simpa using h)
      next =>
        simp only [List.map_cons, List.mem_cons] at h ⊢
        rcases h with rfl | h
        · exact Or.inr (Or.inl rfl)
        · exact (ih h).imp_right Or.inr

/-- Rows of the right key may take the place of an entry's rows. -/
theorem Keyed.modify (h : entries.Keyed key) {atoms : List (Option KeyAtom)}
    {change : List Row → List Row}
    (hchange : ∀ row ∈ change (entries.rows atoms), key row = atoms) :
    (entries.modify atoms change).Keyed key := by
  induction entries with
  | nil => exact ⟨by simp [KeyedEntries.modify], by simpa [KeyedEntries.modify, rows] using hchange⟩
  | cons entry rest ih =>
      obtain ⟨own, stored⟩ := entry
      have hdistinct := List.nodup_cons.mp h.distinct
      unfold KeyedEntries.modify
      split
      next heq =>
        refine ⟨h.distinct, ?_⟩
        intro e member
        rcases List.mem_cons.mp member with rfl | member
        · simpa [rows, heq] using hchange
        · exact h.own e (List.mem_cons_of_mem _ member)
      next hne =>
        have hrest := ih h.tail (by simpa [rows, hne] using hchange)
        refine ⟨List.nodup_cons.mpr ⟨?_, hrest.distinct⟩, ?_⟩
        · intro member
          rcases fst_of_mem_modify member with heq | member
          · exact hne heq
          · exact hdistinct.1 member
        · intro e member
          rcases List.mem_cons.mp member with rfl | member
          · exact h.own _ List.mem_cons_self
          · exact hrest.own e member

/-- What is read under some atoms is what a search through all rows would find. -/
theorem Keyed.filter_toList (h : entries.Keyed key) (atoms : List (Option KeyAtom)) :
    entries.toList.filter (fun row => decide (key row = atoms)) = entries.rows atoms := by
  induction entries with
  | nil => rfl
  | cons entry rest ih =>
      obtain ⟨own, stored⟩ := entry
      have hstored : ∀ row ∈ stored, key row = own := h.own _ List.mem_cons_self
      change ((stored ++ toList rest).filter _) = _
      rw [List.filter_append, ih h.tail]
      by_cases heq : own = atoms
      · have hfresh : rows rest atoms = [] :=
          rows_of_not_mem (heq ▸ (List.nodup_cons.mp h.distinct).1)
        have hall : stored.filter (fun row => decide (key row = atoms)) = stored :=
          List.filter_eq_self.mpr fun row member => by simp [hstored row member, heq]
        simp [rows, heq, hall, hfresh]
      · have hnone : stored.filter (fun row => decide (key row = atoms)) = [] :=
          List.filter_eq_nil_iff.mpr fun row member => by simp [hstored row member, heq]
        simp [rows, heq, hnone]

/-- A row occurs in a partition as often as in the entry of its key. -/
theorem Keyed.count_toList (h : entries.Keyed key) (row : Row) :
    entries.toList.count row = (entries.rows (key row)).count row := by
  rw [← h.filter_toList, List.count_filter]
  simp

end KeyedEntries

end JoinEngine
