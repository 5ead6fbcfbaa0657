import Mathlib.Data.List.Perm.Basic
import Mathlib.Data.List.Range
import JoinEngine.Exec.Run

/-!
Work dealt to hands and gathered again. Dealing only reorders items, so working on the items of
every hand comes to the rows of all items in some order, or to a failure exactly if some item
fails.
-/

namespace JoinEngine

/-- Both fail, or both give the same rows, each as often, in some order. -/
inductive SameRows {ε δ : Type} : Except ε (List Row) → Except δ (List Row) → Prop where
  | ok {rows others : List Row} : rows.Perm others → SameRows (.ok rows) (.ok others)
  | error (e : ε) (f : δ) : SameRows (.error e) (.error f)

section

variable {ε : Type} {a b c a' b' : Except ε (List Row)}

theorem sameRows_refl (a : Except ε (List Row)) : SameRows a a := by
  cases a with
  | error e => exact .error e e
  | ok rows => exact .ok (.refl rows)

theorem SameRows.trans (h : SameRows a b) (h' : SameRows b c) : SameRows a c := by
  cases h with
  | ok hrows =>
      cases h' with
      | ok hothers => exact .ok (hrows.trans hothers)
  | error e f =>
      cases h' with
      | error _ g => exact .error e g

def bothRows (a b : Except ε (List Row)) : Except ε (List Row) := do
  let rows ← a
  let others ← b
  return rows ++ others

theorem nil_bothRows (a : Except ε (List Row)) : bothRows (.ok []) a = a := by
  cases a <;> rfl

theorem bothRows_nil (a : Except ε (List Row)) : bothRows a (.ok []) = a := by
  cases a with
  | error e => rfl
  | ok rows => exact congrArg Except.ok (List.append_nil rows)

theorem bothRows_assoc (a b c : Except ε (List Row)) :
    bothRows (bothRows a b) c = bothRows a (bothRows b c) := by
  cases a with
  | error e => rfl
  | ok rows =>
      cases b with
      | error e => rfl
      | ok others =>
          cases c with
          | error e => rfl
          | ok last => exact congrArg Except.ok (List.append_assoc rows others last)

theorem SameRows.both (h : SameRows a a') (h' : SameRows b b') :
    SameRows (bothRows a b) (bothRows a' b') := by
  cases h with
  | error e f => exact .error e f
  | ok hrows =>
      cases h' with
      | error e f => exact .error e f
      | ok hothers => exact .ok (hrows.append hothers)

theorem sameRows_comm (a b : Except ε (List Row)) : SameRows (bothRows a b) (bothRows b a) := by
  cases a with
  | error e =>
      cases b with
      | error f => exact .error e f
      | ok rows => exact .error e e
  | ok rows =>
      cases b with
      | error f => exact .error f f
      | ok others => exact .ok List.perm_append_comm

end

section

variable {ι ε : Type} (work : ι → Except ε (List Row))

theorem flatMapM_cons_eq_both (i : ι) (items : List ι) :
    (i :: items).flatMapM work = bothRows (work i) (items.flatMapM work) :=
  List.flatMapM_cons

theorem flatMapM_append_eq_both (items others : List ι) :
    (items ++ others).flatMapM work =
      bothRows (items.flatMapM work) (others.flatMapM work) := by
  induction items with
  | nil =>
      rw [List.nil_append]
      cases others.flatMapM work <;> rfl
  | cons i rest ih =>
      rw [List.cons_append, flatMapM_cons_eq_both, flatMapM_cons_eq_both, ih, bothRows_assoc]

theorem flatMapM_flatten (lists : List (List ι)) :
    lists.flatten.flatMapM work = lists.flatMapM fun items => items.flatMapM work := by
  induction lists with
  | nil => rfl
  | cons items rest ih =>
      rw [List.flatten_cons, flatMapM_append_eq_both, flatMapM_cons_eq_both, ih]

/-- The order of the items does not matter. -/
theorem sameRows_of_perm {items others : List ι} (h : items.Perm others) :
    SameRows (items.flatMapM work) (others.flatMapM work) := by
  induction h with
  | nil => exact sameRows_refl _
  | cons i _ ih =>
      rw [flatMapM_cons_eq_both, flatMapM_cons_eq_both]
      exact (sameRows_refl (work i)).both ih
  | swap i j rest =>
      simp only [flatMapM_cons_eq_both, ← bothRows_assoc]
      exact (sameRows_comm (work j) (work i)).both (sameRows_refl _)
  | trans _ _ ih ih' => exact ih.trans ih'

end

/-- Gathering what the hands come to gives the rows of all hands in turn. -/
theorem gather_map {ι : Type} (work : ι → Except JoinError (List Row)) (hands : List ι) :
    gather (hands.map work) = hands.flatMapM work := by
  induction hands with
  | nil => rfl
  | cons hand rest ih =>
      rw [flatMapM_cons_eq_both, ← ih]
      rfl

/-- Among the hands up to some number, one is the one whose turn it is. -/
theorem range_flatMap_turn {α : Type} {n k : Nat} (h : k < n) (a : α) :
    ((List.range n).flatMap fun hand => if k = hand then [a] else []) = [a] := by
  induction n with
  | zero => omega
  | succ n ih =>
      rw [List.range_succ, List.flatMap_append, List.flatMap_singleton]
      by_cases hlast : k = n
      · subst hlast
        have hnone : ((List.range k).flatMap fun hand => if k = hand then [a] else []) = [] := by
          apply List.flatMap_eq_nil_iff.mpr
          intro hand hmem
          have hlt := List.mem_range.mp hmem
          exact if_neg (by omega)
        rw [hnone, if_pos rfl, List.nil_append]
      · rw [ih (by omega), if_neg hlast, List.append_nil]

/-- Dealing to hands reorders the items and nothing else. -/
theorem flatten_deal_perm {α : Type} {n : Nat} (hn : 0 < n) (items : List α) :
    (deal n items).flatten.Perm items := by
  have hentries (entries : List (α × Nat)) :
      ((List.range n).flatMap fun hand =>
        entries.filterMap fun entry => if entry.2 % n = hand then some entry.1 else none).Perm
        (entries.map Prod.fst) := by
    induction entries with
    | nil => simp
    | cons entry rest ih =>
        have hsplit : ∀ hand, ((entry :: rest).filterMap fun entry =>
            if entry.2 % n = hand then some entry.1 else none) =
            (if entry.2 % n = hand then [entry.1] else []) ++
              rest.filterMap fun entry => if entry.2 % n = hand then some entry.1 else none := by
          intro hand
          rw [List.filterMap_cons]
          by_cases hturn : entry.2 % n = hand <;> simp [hturn]
        simp only [hsplit]
        refine (List.flatMap_append_perm _ _ _).symm.trans ?_
        rw [range_flatMap_turn (Nat.mod_lt entry.2 hn)]
        exact ih.cons entry.1
  have hitems : items.zipIdx.map Prod.fst = items := List.zipIdx_map_fst 0 items
  rw [deal, ← List.flatMap_def]
  exact (hentries items.zipIdx).trans (.of_eq hitems)

theorem workerCount_pos (parallelism partitions : Nat) :
    0 < workerCount parallelism partitions := by
  unfold workerCount
  omega

end JoinEngine
