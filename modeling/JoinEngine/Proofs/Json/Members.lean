import Mathlib.Data.List.Induction
import Mathlib.Data.String.Basic
import JoinEngine.Json.Basic

/-!
Members of objects in ascending order of their names. Sorting members keeps every one of them if
no name occurs twice, and changes nothing where names ascend; so an object whose names ascend is
its own canonical form if the documents in it are.
-/

namespace JoinEngine.Json

def Ascending (members : List (String × Json)) : Prop := members.Pairwise fun a b => a.1 < b.1

variable {name : String} {value : Json} {members : List (String × Json)}

theorem mem_insertMember {member : String × Json} (h : member ∈ insertMember name value members) :
    member = (name, value) ∨ member ∈ members := by
  induction members with
  | nil => exact Or.inl (List.mem_singleton.mp h)
  | cons first rest ih =>
      unfold insertMember at h
      split at h
      · exact List.mem_cons.mp h
      split at h
      · exact (List.mem_cons.mp h).imp_right (List.mem_cons_of_mem first)
      · rcases List.mem_cons.mp h with rfl | hrest
        · exact Or.inr List.mem_cons_self
        · exact (ih hrest).imp_right (List.mem_cons_of_mem first)

theorem Ascending.insertMember (h : Ascending members) (name : String) (value : Json) :
    Ascending (insertMember name value members) := by
  induction members with
  | nil => exact List.pairwise_singleton _ _
  | cons first rest ih =>
      obtain ⟨hfirst, hrest⟩ := List.pairwise_cons.mp h
      unfold Json.insertMember
      split
      next hless =>
        refine List.pairwise_cons.mpr ⟨fun member hmem => ?_, h⟩
        rcases List.mem_cons.mp hmem with rfl | hlater
        · exact hless
        · exact String.lt_trans hless (hfirst member hlater)
      next hnot =>
        split
        next hsame =>
          obtain rfl := hsame
          exact List.pairwise_cons.mpr ⟨hfirst, hrest⟩
        next hother =>
          refine List.pairwise_cons.mpr ⟨fun member hmem => ?_, ih hrest⟩
          rcases mem_insertMember hmem with rfl | hlater
          · exact (lt_trichotomy first.1 name).resolve_right
              fun h => h.elim (fun heq => hother heq.symm) hnot
          · exact hfirst member hlater

/-- A member of a new name comes to the others. -/
theorem insertMember_perm (h : name ∉ members.map (·.1)) :
    (insertMember name value members).Perm ((name, value) :: members) := by
  induction members with
  | nil => exact .refl _
  | cons first rest ih =>
      rw [List.map_cons, List.mem_cons, not_or] at h
      unfold insertMember
      split
      · exact .refl _
      · rw [if_neg h.1]
        exact ((ih h.2).cons first).trans (.swap _ _ _)

/-- A member whose name is above all others comes last. -/
theorem insertMember_last (h : ∀ member ∈ members, member.1 < name) :
    insertMember name value members = members ++ [(name, value)] := by
  induction members with
  | nil => rfl
  | cons first rest ih =>
      obtain ⟨hfirst, hrest⟩ := List.forall_mem_cons.mp h
      have hother : name ≠ first.1 := fun heq => String.lt_irrefl name (heq ▸ hfirst)
      unfold insertMember
      rw [if_neg (String.lt_asymm hfirst), if_neg hother, ih hrest]
      rfl

theorem sortMembers_concat (members : List (String × Json)) (name : String) (value : Json) :
    sortMembers (members ++ [(name, value)]) = insertMember name value (sortMembers members) :=
  List.foldl_append

theorem ascending_sortMembers (members : List (String × Json)) :
    Ascending (sortMembers members) := by
  induction members using List.reverseRecOn with
  | nil => exact .nil
  | append_singleton members member ih =>
      rw [sortMembers_concat]
      exact ih.insertMember _ _

theorem sortMembers_perm (h : (members.map (·.1)).Nodup) : (sortMembers members).Perm members := by
  induction members using List.reverseRecOn with
  | nil => exact .refl _
  | append_singleton members member ih =>
      rw [List.map_append, List.nodup_append] at h
      obtain ⟨hmembers, -, hnew⟩ := h
      have hsorted := ih hmembers
      have habsent : member.1 ∉ (sortMembers members).map (·.1) := by
        rw [(hsorted.map _).mem_iff]
        exact fun hmem => hnew _ hmem _ List.mem_cons_self rfl
      rw [sortMembers_concat]
      exact (insertMember_perm habsent).trans
        ((hsorted.cons member).trans (List.perm_append_singleton member members).symm)

theorem Ascending.sortMembers_eq (h : Ascending members) : sortMembers members = members := by
  induction members using List.reverseRecOn with
  | nil => rfl
  | append_singleton members member ih =>
      obtain ⟨hmembers, -, hlast⟩ := List.pairwise_append.mp h
      rw [sortMembers_concat, ih hmembers]
      exact insertMember_last fun other hmem => hlast other hmem member List.mem_cons_self

/-- A member is found by its name if no other member has it. -/
theorem lookup_of_mem (hdistinct : (members.map (·.1)).Nodup) (h : (name, value) ∈ members) :
    members.lookup name = some value := by
  induction members with
  | nil => cases h
  | cons first rest ih =>
      rw [List.map_cons, List.nodup_cons] at hdistinct
      rcases List.mem_cons.mp h with rfl | hrest
      · exact List.lookup_cons_self
      · have hother : (name == first.1) = false :=
          beq_false_of_ne fun heq => hdistinct.1 (heq ▸ List.mem_map_of_mem hrest)
        rw [List.lookup_cons, hother]
        exact ih hdistinct.2 hrest

theorem canonical_array {items : List Json} (h : ∀ j ∈ items, j.canonical = j) :
    (array items).canonical = array items := by
  have hitems : canonicalItems items = items := by
    induction items with
    | nil => rfl
    | cons j items ih =>
        obtain ⟨hfirst, hrest⟩ := List.forall_mem_cons.mp h
        rw [canonicalItems, hfirst, ih hrest]
  rw [canonical, hitems]

theorem canonical_object (hnames : Ascending members)
    (h : ∀ member ∈ members, member.2.canonical = member.2) :
    (object members).canonical = object members := by
  have hmembers : canonicalMembers members = members := by
    clear hnames
    induction members with
    | nil => rfl
    | cons member members ih =>
        obtain ⟨hfirst, hrest⟩ := List.forall_mem_cons.mp h
        rw [canonicalMembers, hfirst, ih hrest]
  rw [canonical, hmembers, hnames.sortMembers_eq]

end JoinEngine.Json
