import Mathlib.Data.List.Induction
import Mathlib.Logic.Function.Basic
import Mathlib.Logic.Relation
import JoinEngine.Exec.BuildSide

/-!
Many callers of one shared build. A call of `getOrBuild` looks at the slot, takes the builder lock
if the slot is empty, looks again, runs its closure, writes the slot and drops the lock; between
any two of these steps other calls may take theirs, and the slot may be read or released. The
calls are told apart by an index, of which there may be any number, and the events of a run are
kept in order. Two invariants carry everything: the lock is held by the one call inside, and the
slot is empty from that call's second look to its write. So each call happens at one of its steps,
as the whole of `getOrBuild` would there.
-/

namespace JoinEngine

namespace SharedBuild

/-- Where a call has got to. -/
inductive Phase where
  /-- Before its first look at the slot. -/
  | start
  /-- The slot was empty; the lock is not yet taken. -/
  | waiting
  /-- The lock is taken; before the second look. -/
  | locked
  /-- The slot was empty again; the closure is next. -/
  | ready
  /-- The closure is running. -/
  | building
  /-- The closure has given a side, which is not yet written. -/
  | built (side : BuildSide)
  /-- The result is settled; the lock is still held. -/
  | leaving (result : Except JoinError BuildSide)
  | done (result : Except JoinError BuildSide)

namespace Phase

/-- Whether the call holds the builder lock. -/
def inside : Phase → Bool
  | .start | .waiting | .done _ => false
  | .locked | .ready | .building | .built _ | .leaving _ => true

/-- Whether the call, holding the lock, relies on the slot being empty. -/
def relying : Phase → Bool
  | .ready | .building | .built _ | .leaving (.error _) => true
  | _ => false

def side? : Phase → Option BuildSide
  | .built side | .leaving (.ok side) | .done (.ok side) => some side
  | _ => none

theorem inside_of_relying {p : Phase} (h : p.relying = true) : p.inside = true := by
  cases p <;> first | rfl | cases h

end Phase

/-- The slot, the lock and the calls. -/
structure Callers (ι : Type) where
  shared : SharedBuild := {}
  /-- The call that holds the builder lock. -/
  holder : Option ι := none
  phase : ι → Phase := fun _ => .start

inductive Event (ι : Type) where
  /-- A look at the slot, the lock taken, or the slot written. -/
  | quiet (i : ι)
  | began (i : ι)
  | succeeded (i : ι) (side : BuildSide)
  | failed (i : ι) (e : JoinError)
  /-- The call returns, dropping the lock if it has it. -/
  | returned (i : ι) (result : Except JoinError BuildSide)
  /-- The slot is read from outside. -/
  | got (answer : Option BuildSide)
  | released (held : Bool)

namespace Event

variable {ι : Type}

def made : Event ι → Option BuildSide
  | .succeeded _ side => some side
  | _ => none

def told : Event ι → Option BuildSide
  | .returned _ (.ok side) => some side
  | .got answer => answer
  | _ => none

/-- Whether a release found a side to drop. -/
def empties : Event ι → Bool
  | .released held => held
  | _ => false

end Event

def builtSides {ι : Type} (events : List (Event ι)) : List BuildSide :=
  events.filterMap Event.made

def emptied {ι : Type} (events : List (Event ι)) : Nat := events.countP Event.empties

theorem builtSides_append {ι : Type} (events : List (Event ι)) (e : Event ι) :
    builtSides (events ++ [e]) = builtSides events ++ e.made.toList := by
  unfold builtSides
  rw [List.filterMap_append]
  cases hmade : e.made <;> simp [hmade]

theorem length_builtSides_append {ι : Type} (events : List (Event ι)) (e : Event ι) :
    (builtSides (events ++ [e])).length = (builtSides events).length + e.made.toList.length := by
  rw [builtSides_append, List.length_append]

theorem emptied_append {ι : Type} (events : List (Event ι)) (e : Event ι) :
    emptied (events ++ [e]) = emptied events + if e.empties then 1 else 0 := by
  unfold emptied
  rw [List.countP_append, List.countP_singleton]

variable {ι : Type} [DecidableEq ι]

def Callers.move (s : Callers ι) (i : ι) (p : Phase) : Callers ι :=
  { s with phase := Function.update s.phase i p }

/-- One step of one call, or one access from outside. -/
inductive Step : Callers ι → Event ι → Callers ι → Prop where
  | hit {s : Callers ι} {i : ι} {side : BuildSide} (hphase : s.phase i = .start)
      (hslot : s.shared.side = some side) :
      Step s (.returned i (.ok side)) (s.move i (.done (.ok side)))
  | miss {s : Callers ι} {i : ι} (hphase : s.phase i = .start) (hslot : s.shared.side = none) :
      Step s (.quiet i) (s.move i .waiting)
  | lock {s : Callers ι} {i : ι} (hphase : s.phase i = .waiting) (hfree : s.holder = none) :
      Step s (.quiet i) { s.move i .locked with holder := some i }
  | found {s : Callers ι} {i : ι} {side : BuildSide} (hphase : s.phase i = .locked)
      (hslot : s.shared.side = some side) :
      Step s (.quiet i) (s.move i (.leaving (.ok side)))
  | still {s : Callers ι} {i : ι} (hphase : s.phase i = .locked)
      (hslot : s.shared.side = none) : Step s (.quiet i) (s.move i .ready)
  | run {s : Callers ι} {i : ι} (hphase : s.phase i = .ready) :
      Step s (.began i) (s.move i .building)
  | succeed {s : Callers ι} {i : ι} (side : BuildSide) (hphase : s.phase i = .building) :
      Step s (.succeeded i side) (s.move i (.built side))
  | fail {s : Callers ι} {i : ι} (e : JoinError) (hphase : s.phase i = .building) :
      Step s (.failed i e) (s.move i (.leaving (.error e)))
  | write {s : Callers ι} {i : ι} {side : BuildSide} (hphase : s.phase i = .built side) :
      Step s (.quiet i) { s.move i (.leaving (.ok side)) with shared := ⟨some side⟩ }
  | unlock {s : Callers ι} {i : ι} {result : Except JoinError BuildSide}
      (hphase : s.phase i = .leaving result) :
      Step s (.returned i result) { s.move i (.done result) with holder := none }
  | get {s : Callers ι} : Step s (.got s.shared.side) s
  | release {s : Callers ι} :
      Step s (.released s.shared.release.1) { s with shared := s.shared.release.2 }

inductive Runs (s : Callers ι) : List (Event ι) → Callers ι → Prop where
  | nil : Runs s [] s
  | snoc {events : List (Event ι)} {e : Event ι} {t u : Callers ι} :
      Runs s events t → Step t e u → Runs s (events ++ [e]) u

namespace Callers

variable {s : Callers ι} {i j : ι} {p : Phase}

@[simp]
theorem move_shared : (s.move i p).shared = s.shared := rfl

@[simp]
theorem move_holder : (s.move i p).holder = s.holder := rfl

@[simp]
theorem move_phase_self : (s.move i p).phase i = p := by
  unfold move
  exact Function.update_self ..

theorem move_phase_of_ne (h : j ≠ i) : (s.move i p).phase j = s.phase j := by
  unfold move
  exact Function.update_of_ne h ..

/-- After a move the phase of a call is the new one, or the call is another one. -/
theorem move_phase_cases (s : Callers ι) (i : ι) (p : Phase) (j : ι) :
    j = i ∧ (s.move i p).phase j = p ∨ j ≠ i ∧ (s.move i p).phase j = s.phase j := by
  by_cases h : j = i
  · exact Or.inl ⟨h, h ▸ move_phase_self⟩
  · exact Or.inr ⟨h, move_phase_of_ne h⟩

/-- The lock is held by the one call inside, and while that call relies on it the slot is
empty. -/
structure Disciplined (s : Callers ι) : Prop where
  lock : ∀ i, (s.phase i).inside = true ↔ s.holder = some i
  slot : ∀ i, (s.phase i).relying = true → s.shared.side = none

namespace Disciplined

omit [DecidableEq ι] in
theorem unique (h : s.Disciplined) (hi : (s.phase i).inside = true)
    (hj : (s.phase j).inside = true) : i = j :=
  Option.some.inj (((h.lock i).mp hi).symm.trans ((h.lock j).mp hj))

/-- A move that neither takes nor drops the lock. -/
theorem move (h : s.Disciplined) (hinside : p.inside = (s.phase i).inside)
    (hslot : p.relying = true → s.shared.side = none) : (s.move i p).Disciplined where
  lock j := by
    rcases move_phase_cases s i p j with ⟨rfl, hphase⟩ | ⟨-, hphase⟩
    · rw [hphase, hinside]
      exact h.lock j
    · rw [hphase]
      exact h.lock j
  slot j hj := by
    rcases move_phase_cases s i p j with ⟨rfl, hphase⟩ | ⟨-, hphase⟩
    · exact hslot (hphase ▸ hj)
    · exact h.slot j (hphase ▸ hj)

/-- The call inside writes the slot: no other call relies on its being empty. -/
theorem write (h : s.Disciplined) {side : BuildSide} (hphase : s.phase i = .built side) :
    Disciplined { s.move i (.leaving (.ok side)) with shared := ⟨some side⟩ } where
  lock := (h.move (p := .leaving (.ok side)) (by rw [hphase]; rfl) nofun).lock
  slot j hj := by
    have hinside : (s.phase i).inside = true := by rw [hphase]; rfl
    rcases move_phase_cases s i (.leaving (.ok side)) j with ⟨rfl, hafter⟩ | ⟨hne, hafter⟩
    · rw [hafter] at hj
      cases hj
    · rw [hafter] at hj
      exact absurd (h.unique (Phase.inside_of_relying hj) hinside) hne

theorem takeLock (h : s.Disciplined) (hfree : s.holder = none) :
    Disciplined { s.move i .locked with holder := some i } where
  lock j := by
    rcases move_phase_cases s i .locked j with ⟨rfl, hafter⟩ | ⟨hne, hafter⟩
    · exact ⟨fun _ => rfl, fun _ => by rw [hafter]; rfl⟩
    · rw [hafter, h.lock j, hfree]
      exact ⟨nofun, fun heq => absurd (Option.some.inj heq).symm hne⟩
  slot j hj := by
    rcases move_phase_cases s i .locked j with ⟨rfl, hafter⟩ | ⟨-, hafter⟩
    · rw [hafter] at hj
      cases hj
    · exact h.slot j (hafter ▸ hj)

theorem dropLock (h : s.Disciplined) {result : Except JoinError BuildSide}
    (hphase : s.phase i = .leaving result) :
    Disciplined { s.move i (.done result) with holder := none } where
  lock j := by
    have hinside : (s.phase i).inside = true := by rw [hphase]; rfl
    rcases move_phase_cases s i (.done result) j with ⟨rfl, hafter⟩ | ⟨hne, hafter⟩
    · rw [hafter]
      exact ⟨nofun, nofun⟩
    · rw [hafter]
      exact ⟨fun hj => absurd (h.unique hj hinside) hne, nofun⟩
  slot j hj := by
    rcases move_phase_cases s i (.done result) j with ⟨rfl, hafter⟩ | ⟨-, hafter⟩
    · rw [hafter] at hj
      cases hj
    · exact h.slot j (hafter ▸ hj)

theorem step {e : Event ι} {t : Callers ι} (h : s.Disciplined) (hstep : Step s e t) :
    t.Disciplined := by
  cases hstep with
  | hit hphase _ => exact h.move (by rw [hphase]; rfl) nofun
  | miss hphase _ => exact h.move (by rw [hphase]; rfl) nofun
  | lock _ hfree => exact h.takeLock hfree
  | found hphase _ => exact h.move (by rw [hphase]; rfl) nofun
  | still hphase hslot => exact h.move (by rw [hphase]; rfl) fun _ => hslot
  | run hphase => exact h.move (by rw [hphase]; rfl) fun _ => h.slot _ (by rw [hphase]; rfl)
  | succeed _ hphase => exact h.move (by rw [hphase]; rfl) fun _ => h.slot _ (by rw [hphase]; rfl)
  | fail _ hphase => exact h.move (by rw [hphase]; rfl) fun _ => h.slot _ (by rw [hphase]; rfl)
  | write hphase => exact h.write hphase
  | unlock hphase => exact h.dropLock hphase
  | get => exact h
  | release => exact ⟨h.lock, fun _ _ => rfl⟩

omit [DecidableEq ι] in
theorem fresh : Disciplined ({} : Callers ι) := ⟨fun _ => ⟨nofun, nofun⟩, nofun⟩

end Disciplined

def Holds (s : Callers ι) (side : BuildSide) : Prop :=
  s.shared.side = some side ∨ ∃ i, (s.phase i).side? = some side

/-- A call that moves on has the side it had, unless it gets one. -/
theorem Holds.of_move {side : BuildSide} (h : (s.move i p).Holds side)
    (hp : p.side? = some side → s.Holds side) : s.Holds side := by
  rcases h with hslot | ⟨j, hj⟩
  · exact Or.inl hslot
  · rcases move_phase_cases s i p j with ⟨-, hphase⟩ | ⟨-, hphase⟩
    · exact hp (hphase ▸ hj)
    · exact Or.inr ⟨j, hphase ▸ hj⟩

/-- A side that is held after a step, or given out by it, was held before or made by it. -/
theorem holds_of_step {e : Event ι} {t : Callers ι} {side : BuildSide} (h : Step s e t)
    (hside : t.Holds side ∨ e.told = some side) : s.Holds side ∨ e.made = some side := by
  cases h with
  | hit hphase hslot =>
      have hheld : s.Holds _ := Or.inl hslot
      rcases hside with hafter | htold
      · exact Or.inl (hafter.of_move fun hp => Option.some.inj hp ▸ hheld)
      · exact Or.inl (Option.some.inj htold ▸ hheld)
  | miss hphase _ => exact Or.inl (hside.resolve_right nofun |>.of_move nofun)
  | lock hphase _ => exact Or.inl (Holds.of_move (p := .locked) (hside.resolve_right nofun) nofun)
  | found hphase hslot =>
      have hheld : s.Holds _ := Or.inl hslot
      exact Or.inl (hside.resolve_right nofun |>.of_move fun hp => Option.some.inj hp ▸ hheld)
  | still hphase _ => exact Or.inl (hside.resolve_right nofun |>.of_move nofun)
  | run hphase => exact Or.inl (hside.resolve_right nofun |>.of_move nofun)
  | succeed made hphase =>
      by_cases hmade : made = side
      · exact Or.inr (congrArg some hmade)
      · exact Or.inl (hside.resolve_right nofun |>.of_move fun hp =>
          absurd (Option.some.inj hp) hmade)
  | fail _ hphase => exact Or.inl (hside.resolve_right nofun |>.of_move nofun)
  | @write i written hphase =>
      have hheld : s.Holds written := Or.inr ⟨i, by rw [hphase]; rfl⟩
      rcases hside.resolve_right nofun with hslot | hcarried
      · exact Or.inl (Option.some.inj hslot ▸ hheld)
      · exact Or.inl (Holds.of_move (p := .leaving (.ok written)) (Or.inr hcarried) fun hp =>
          Option.some.inj hp ▸ hheld)
  | @unlock i result hphase =>
      have hheld (hresult : (Phase.done result).side? = some side) : s.Holds side := by
        refine Or.inr ⟨i, ?_⟩
        rw [hphase]
        cases result with
        | error e => cases hresult
        | ok given => exact hresult
      rcases hside with hafter | htold
      · exact Or.inl (Holds.of_move (p := .done result) hafter hheld)
      · refine Or.inl (hheld ?_)
        cases result with
        | error e => cases htold
        | ok given => exact htold
  | get => exact Or.inl (hside.elim id Or.inl)
  | release =>
      rcases hside.resolve_right nofun with hslot | hcarried
      · cases hslot
      · exact Or.inl (Or.inr hcarried)

omit [DecidableEq ι] in
/-- Sides that are held or were given out are sides that closures gave. -/
theorem mem_builtSides_snoc {events : List (Event ι)} {e : Event ι} {side : BuildSide}
    (h : side ∈ builtSides events ∨ e.made = some side) :
    side ∈ builtSides (events ++ [e]) := by
  rw [builtSides_append, List.mem_append, Option.mem_toList]
  exact h

theorem mem_builtSides_of_runs {events : List (Event ι)} {s : Callers ι}
    (h : Runs {} events s) :
    (∀ side, s.Holds side → side ∈ builtSides events) ∧
      ∀ e ∈ events, ∀ side, e.told = some side → side ∈ builtSides events := by
  induction h with
  | nil =>
      refine ⟨fun side hside => ?_, nofun⟩
      rcases hside with hslot | ⟨i, hi⟩
      · cases hslot
      · cases hi
  | @snoc events e t u _ hstep ih =>
      obtain ⟨hheld, htold⟩ := ih
      have hnew (side : BuildSide) (hside : u.Holds side ∨ e.told = some side) :
          side ∈ builtSides (events ++ [e]) :=
        mem_builtSides_snoc ((holds_of_step hstep hside).imp_left (hheld side))
      refine ⟨fun side hside => hnew side (Or.inl hside), fun f hf side hside => ?_⟩
      rcases List.mem_append.mp hf with hearlier | hlast
      · exact mem_builtSides_snoc (Or.inl (htold f hearlier side hside))
      · obtain rfl := List.mem_singleton.mp hlast
        exact hnew side (Or.inr hside)

/-- A side is in the slot or about to be written there. -/
def Filled (s : Callers ι) : Prop :=
  s.shared.side ≠ none ∨ ∃ i side, s.phase i = .built side

omit [DecidableEq ι] in
/-- While the call inside relies on the slot and has no side of its own, there is none at all. -/
theorem Disciplined.not_filled (h : s.Disciplined) (hi : (s.phase i).relying = true)
    (hnone : ∀ side, s.phase i ≠ .built side) : ¬ s.Filled := by
  rintro (hslot | ⟨j, side, hj⟩)
  · exact hslot (h.slot i hi)
  · have hinside : (s.phase j).inside = true := by rw [hj]; rfl
    obtain rfl := h.unique hinside (Phase.inside_of_relying hi)
    exact hnone side hj

theorem Filled.move (h : s.Filled) (hi : ∀ side, s.phase i ≠ .built side) :
    (s.move i p).Filled := by
  rcases h with hslot | ⟨j, side, hj⟩
  · exact Or.inl hslot
  · rcases move_phase_cases s i p j with ⟨rfl, -⟩ | ⟨-, hphase⟩
    · exact absurd hj (hi side)
    · exact Or.inr ⟨j, side, hphase.trans hj⟩

/-- No step loses sight of a side but a release that drops it. -/
theorem Filled.step {e : Event ι} {t : Callers ι} (h : s.Filled) (hstep : Step s e t)
    (hkept : e.empties = false) : t.Filled := by
  cases hstep with
  | hit hphase _ => exact h.move fun _ => hphase ▸ nofun
  | miss hphase _ => exact h.move fun _ => hphase ▸ nofun
  | lock hphase _ => exact h.move (p := .locked) fun _ => hphase ▸ nofun
  | found hphase _ => exact h.move fun _ => hphase ▸ nofun
  | still hphase _ => exact h.move fun _ => hphase ▸ nofun
  | run hphase => exact h.move fun _ => hphase ▸ nofun
  | succeed _ hphase => exact h.move fun _ => hphase ▸ nofun
  | fail _ hphase => exact h.move fun _ => hphase ▸ nofun
  | write => exact Or.inl nofun
  | @unlock _ result hphase => exact h.move (p := .done result) fun _ => hphase ▸ nofun
  | get => exact h
  | release =>
      have hfound : s.shared.side.isSome = false := hkept
      have hslot : s.shared.side = none := by simpa using hfound
      exact Or.inr (h.resolve_left fun hne => hne hslot)

/-- Every side made is paid for by a release that dropped one, but for the side that is there. -/
structure Counted (s : Callers ι) (events : List (Event ι)) : Prop where
  bound : (builtSides events).length ≤ emptied events + 1
  spent : ¬ s.Filled → (builtSides events).length ≤ emptied events

theorem Counted.step {events : List (Event ι)} {e : Event ι} {t : Callers ι}
    (h : s.Counted events) (hs : s.Disciplined) (hstep : Step s e t) :
    t.Counted (events ++ [e]) := by
  cases hmade : e.made with
  | some side =>
      -- the closure was running, so there was no side, and the one it gave is there now
      obtain ⟨i, rfl, hphase, rfl⟩ : ∃ i, e = .succeeded i side ∧ s.phase i = .building ∧
          t = s.move i (.built side) := by
        cases hstep with
        | succeed _ hphase => exact ⟨_, by cases hmade; rfl, hphase, by cases hmade; rfl⟩
        | _ => cases hmade
      have hrelying : (s.phase i).relying = true := by rw [hphase]; rfl
      have hspent := h.spent (hs.not_filled hrelying fun _ => by rw [hphase]; nofun)
      refine ⟨?_, fun hempty => absurd (Or.inr ⟨i, side, move_phase_self⟩) hempty⟩
      rw [length_builtSides_append, emptied_append]
      exact Nat.succ_le_succ hspent
  | none =>
      have hlength : (builtSides (events ++ [e])).length = (builtSides events).length := by
        rw [length_builtSides_append, hmade]
        rfl
      cases hempties : e.empties with
      | true =>
          have hcount : emptied (events ++ [e]) = emptied events + 1 := by
            rw [emptied_append, hempties]
            rfl
          have hbound := h.bound
          rw [← hlength, ← hcount] at hbound
          exact ⟨Nat.le_succ_of_le hbound, fun _ => hbound⟩
      | false =>
          have hcount : emptied (events ++ [e]) = emptied events := by
            rw [emptied_append, hempties]
            rfl
          refine ⟨by rw [hlength, hcount]; exact h.bound, fun hempty => ?_⟩
          rw [hlength, hcount]
          exact h.spent fun hfilled => hempty (hfilled.step hstep hempties)

theorem counted_of_runs {events : List (Event ι)} {s : Callers ι} (h : Runs {} events s) :
    s.Disciplined ∧ s.Counted events := by
  induction h with
  | nil => exact ⟨.fresh, Nat.zero_le _, fun _ => Nat.le_refl _⟩
  | snoc _ hstep ih => exact ⟨ih.1.step hstep, ih.2.step ih.1 hstep⟩

end Callers

open Callers

theorem runs_append_singleton {s u : Callers ι} {events : List (Event ι)} {e : Event ι} :
    Runs s (events ++ [e]) u ↔ ∃ t, Runs s events t ∧ Step t e u := by
  constructor
  · intro h
    generalize hall : events ++ [e] = all at h
    cases h with
    | nil => simp at hall
    | snoc hbefore hstep =>
        obtain ⟨rfl, hlast⟩ := List.append_inj' hall rfl
        obtain rfl := List.cons.inj hlast |>.1
        exact ⟨_, hbefore, hstep⟩
  · rintro ⟨t, hbefore, hstep⟩
    exact hbefore.snoc hstep

/-- Every event of a run is a step from where the events before it led. -/
theorem Runs.step_of_append {s u : Callers ι} {before after : List (Event ι)} {e : Event ι}
    (h : Runs s (before ++ e :: after) u) : ∃ t t', Runs s before t ∧ Step t e t' := by
  induction after using List.reverseRecOn generalizing u with
  | nil =>
      obtain ⟨t, hbefore, hstep⟩ := runs_append_singleton.mp h
      exact ⟨t, u, hbefore, hstep⟩
  | append_singleton after last ih =>
      rw [← List.cons_append, ← List.append_assoc] at h
      obtain ⟨t, hbefore, -⟩ := runs_append_singleton.mp h
      exact ih hbefore

/-! ### Whole calls -/

/-- A whole call of `getOrBuild` that finds one slot, leaves another and gives the result. The
closure, which runs if the slot is empty, is one that gives this result. -/
def Gives (before : SharedBuild) (result : Except JoinError BuildSide) (after : SharedBuild) :
    Prop :=
  ∀ {σ : Type} (build : StateM σ (Except JoinError BuildSide)) (x : σ),
    (before.side = none → (build x).1 = result) →
      (before.getOrBuild build x).1 = (result, after)

theorem gives_found {before : SharedBuild} {side : BuildSide} (h : before.side = some side) :
    before.Gives (.ok side) before := by
  intro σ build x _
  unfold getOrBuild
  rw [h]
  rfl

theorem getOrBuild_of_empty {before : SharedBuild} (h : before.side = none) {σ : Type}
    (build : StateM σ (Except JoinError BuildSide)) (x : σ) :
    (before.getOrBuild build x).1 =
      match (build x).1 with
      | .ok side => (.ok side, ⟨some side⟩)
      | .error e => (.error e, before) := by
  have hpair : build x = ((build x).1, (build x).2) := rfl
  unfold getOrBuild
  rw [h]
  simp only [bind, StateT.bind]
  rw [hpair]
  cases (build x).1 <;> rfl

theorem gives_built {before : SharedBuild} (h : before.side = none) (side : BuildSide) :
    before.Gives (.ok side) ⟨some side⟩ := by
  intro σ build x hbuild
  rw [getOrBuild_of_empty h, hbuild h]

theorem gives_failure {before : SharedBuild} (h : before.side = none) (e : JoinError) :
    before.Gives (.error e) before := by
  intro σ build x hbuild
  rw [getOrBuild_of_empty h, hbuild h]

def Phase.result? : Phase → Option (Except JoinError BuildSide)
  | .leaving result | .done result => some result
  | _ => none

/-- The slot and the results of the calls, as they are between whole calls. -/
structure View (ι : Type) where
  shared : SharedBuild := {}
  result? : ι → Option (Except JoinError BuildSide) := fun _ => none

/-- A call from beginning to end, or a release. -/
inductive Whole : View ι → View ι → Prop where
  | call {v : View ι} {i : ι} {result : Except JoinError BuildSide} {shared : SharedBuild}
      (hopen : v.result? i = none) (hgives : v.shared.Gives result shared) :
      Whole v ⟨shared, Function.update v.result? i (some result)⟩
  | release {v : View ι} : Whole v { v with shared := v.shared.release.2 }

def Callers.view (s : Callers ι) : View ι := ⟨s.shared, fun i => (s.phase i).result?⟩

namespace Callers

variable {s : Callers ι} {i : ι} {p : Phase}

theorem view_move : (s.move i p).view =
    ⟨s.shared, Function.update s.view.result? i p.result?⟩ := by
  unfold view
  refine congrArg (View.mk s.shared) (funext fun j => ?_)
  rcases move_phase_cases s i p j with ⟨rfl, hphase⟩ | ⟨hne, hphase⟩
  · rw [hphase, Function.update_self]
  · rw [hphase, Function.update_of_ne hne]

/-- A move without a result is none to the view, nor is one that keeps the result. -/
theorem view_move_of_eq (h : p.result? = (s.phase i).result?) : (s.move i p).view = s.view := by
  rw [view_move, h]
  exact congrArg (View.mk s.shared) (Function.update_eq_self i _)

/-- Each step is nothing to the view, or all of a call, or a release. A call happens at the look
that finds a side, at the write, or where its closure fails. -/
theorem Disciplined.view_step {e : Event ι} {t : Callers ι} (h : s.Disciplined)
    (hstep : Step s e t) : t.view = s.view ∨ Whole s.view t.view := by
  cases hstep with
  | @hit i side hphase hslot =>
      right
      rw [view_move]
      exact .call (congrArg Phase.result? hphase) (gives_found hslot)
  | miss hphase _ => exact Or.inl (view_move_of_eq (by rw [hphase]; rfl))
  | @lock i hphase _ =>
      exact Or.inl (view_move_of_eq (s := s) (p := .locked) (by rw [hphase]; rfl))
  | @found i side hphase hslot =>
      right
      rw [view_move]
      exact .call (congrArg Phase.result? hphase) (gives_found hslot)
  | still hphase _ | run hphase | succeed _ hphase =>
      exact Or.inl (view_move_of_eq (by rw [hphase]; rfl))
  | @fail i e hphase =>
      right
      rw [view_move]
      exact .call (congrArg Phase.result? hphase)
        (gives_failure (h.slot i (by rw [hphase]; rfl)) e)
  | @write i side hphase =>
      right
      have hview : view { s.move i (.leaving (.ok side)) with shared := ⟨some side⟩ } =
          ⟨⟨some side⟩, Function.update s.view.result? i (some (.ok side))⟩ :=
        congrArg (fun v => View.mk ⟨some side⟩ v.result?) (view_move (p := .leaving (.ok side)))
      rw [hview]
      exact .call (congrArg Phase.result? hphase)
        (gives_built (h.slot i (by rw [hphase]; rfl)) side)
  | @unlock i result hphase =>
      exact Or.inl (view_move_of_eq (s := s) (p := .done result) (by rw [hphase]; rfl))
  | get => exact Or.inl rfl
  | release => exact Or.inr .release

/-- A step moves a call that is not done, if it moves any. -/
theorem phase_step {e : Event ι} {t : Callers ι} (h : Step s e t) :
    t.phase = s.phase ∨
      ∃ i p, (∀ result, s.phase i ≠ .done result) ∧ t.phase = (s.move i p).phase := by
  cases h with
  | get | release => exact Or.inl rfl
  | hit hphase _ | miss hphase _ | lock hphase _ | found hphase _ | still hphase _ | run hphase
  | succeed _ hphase | fail _ hphase | write hphase | unlock hphase =>
      exact Or.inr ⟨_, _, fun _ => hphase ▸ nofun, rfl⟩

theorem done_step {e : Event ι} {t : Callers ι} (hstep : Step s e t)
    {result : Except JoinError BuildSide} (h : s.phase i = .done result) :
    t.phase i = .done result := by
  rcases phase_step hstep with hsame | ⟨j, p, hopen, hmoved⟩
  · rw [hsame, h]
  · have hne : i ≠ j := fun hij => hopen result (hij ▸ h)
    rw [hmoved, move_phase_of_ne hne, h]

theorem done_of_returned {events : List (Event ι)} (h : Runs {} events s)
    {result : Except JoinError BuildSide} (hreturned : .returned i result ∈ events) :
    s.phase i = .done result := by
  induction h with
  | nil => cases hreturned
  | snoc _ hstep ih =>
      rcases List.mem_append.mp hreturned with hearlier | hlast
      · exact done_step hstep (ih hearlier)
      · obtain rfl := List.mem_singleton.mp hlast
        cases hstep with
        | hit => exact move_phase_self
        | unlock => exact move_phase_self

theorem whole_of_runs {events : List (Event ι)} (h : Runs {} events s) :
    Relation.ReflTransGen Whole {} s.view := by
  induction h with
  | nil => exact .refl
  | snoc hbefore hstep ih =>
      rcases (counted_of_runs hbefore).1.view_step hstep with hsame | hwhole
      · exact hsame ▸ ih
      · exact ih.tail hwhole

end Callers

/-- What is promised of a run that starts with the slot empty and the lock free. -/
structure SingleBuilder (events : List (Event ι)) (s : Callers ι) : Prop where
  /-- The slot and the results come about by whole calls and releases, one after the other. -/
  whole : Relation.ReflTransGen Whole {} s.view
  /-- Each further step is none of these, or one. -/
  wholeStep : ∀ e t, Step s e t → t.view = s.view ∨ Whole s.view t.view
  returned : ∀ i result, .returned i result ∈ events → s.view.result? i = some result
  oneRunning : ∀ i j, s.phase i = .building → s.phase j = .building → i = j
  startsEmpty : ∀ i t, Step s (.began i) t → s.shared.side = none
  /-- From the start of a closure to the write of its side. -/
  staysEmpty : ∀ i, s.phase i = .building ∨ (∃ side, s.phase i = .built side) →
    s.shared.side = none
  failedEmpty : ∀ i e, s.phase i = .leaving (.error e) → s.shared.side = none
  failedFree : ∀ i e t, Step s (.returned i (.error e)) t →
    t.shared.side = none ∧ t.holder = none
  paid : (builtSides events).length ≤ emptied events + 1
  made : ∀ e ∈ events, ∀ side, e.told = some side → side ∈ builtSides events
  /-- Where nothing is released, there is one side for all, and no closure starts or runs once it
  is made. -/
  oneSide : .released true ∉ events →
    (∀ e ∈ events, ∀ f ∈ events, ∀ a b, e.told = some a → f.told = some b → a = b) ∧
      (builtSides events).length ≤ 1 ∧
      (∀ before i after, events = before ++ .began i :: after → builtSides before = []) ∧
      (builtSides events ≠ [] → ∀ i, s.phase i ≠ .building)

omit [DecidableEq ι] in
theorem emptied_eq_zero {events : List (Event ι)} (h : .released true ∉ events) :
    emptied events = 0 := by
  refine List.countP_eq_zero.mpr fun e he hempties => ?_
  cases e with
  | released held =>
      have hheld : held = true := hempties
      exact h (hheld ▸ he)
  | _ => cases hempties

omit [DecidableEq ι] in
theorem Callers.Counted.eq_nil {s : Callers ι} {events : List (Event ι)} (h : s.Counted events)
    (hnone : .released true ∉ events) (hempty : ¬ s.Filled) : builtSides events = [] := by
  have hspent := h.spent hempty
  rw [emptied_eq_zero hnone] at hspent
  exact List.length_eq_zero_iff.mp (Nat.le_zero.mp hspent)

omit [DecidableEq ι] in
/-- A call about to run its closure, or running it, sees that there is no side. -/
theorem Callers.Disciplined.not_filled_of_running {s : Callers ι} {i : ι} (h : s.Disciplined)
    (hphase : s.phase i = .ready ∨ s.phase i = .building) : ¬ s.Filled := by
  rcases hphase with hready | hbuilding
  · exact h.not_filled (by rw [hready]; rfl) fun _ => by rw [hready]; nofun
  · exact h.not_filled (by rw [hbuilding]; rfl) fun _ => by rw [hbuilding]; nofun

/-- However the steps of any number of calls, reads and releases interleave, there is a single
builder at a time, and the calls come to what whole calls of `getOrBuild` in some order give. -/
theorem singleBuilder_of_runs {events : List (Event ι)} {s : Callers ι}
    (h : Runs {} events s) : SingleBuilder events s := by
  obtain ⟨hdisciplined, hcounted⟩ := counted_of_runs h
  have hmade := (mem_builtSides_of_runs h).2
  constructor
  case whole => exact whole_of_runs h
  case wholeStep => exact fun e t hstep => hdisciplined.view_step hstep
  case returned =>
    intro i result hreturned
    exact congrArg Phase.result? (done_of_returned h hreturned)
  case oneRunning =>
    intro i j hi hj
    exact hdisciplined.unique (by rw [hi]; rfl) (by rw [hj]; rfl)
  case startsEmpty =>
    intro i t hstep
    cases hstep with
    | run hphase => exact hdisciplined.slot i (by rw [hphase]; rfl)
  case staysEmpty =>
    rintro i (hi | ⟨side, hi⟩)
    · exact hdisciplined.slot i (by rw [hi]; rfl)
    · exact hdisciplined.slot i (by rw [hi]; rfl)
  case failedEmpty => exact fun i e hi => hdisciplined.slot i (by rw [hi]; rfl)
  case failedFree =>
    intro i e t hstep
    cases hstep with
    | unlock hphase => exact ⟨hdisciplined.slot i (by rw [hphase]; rfl), rfl⟩
  case paid => exact hcounted.bound
  case made => exact hmade
  case oneSide =>
    intro hnone
    have hone := hcounted.bound
    rw [emptied_eq_zero hnone, Nat.zero_add] at hone
    refine ⟨fun e he f hf a b ha hb => ?_, hone, fun before i after hsplit => ?_, ?_⟩
    · obtain ⟨only, honly⟩ := List.length_eq_one_iff.mp
        (Nat.le_antisymm hone (List.length_pos_of_mem (hmade e he a ha)))
      have hfirst := hmade e he a ha
      have hsecond := hmade f hf b hb
      rw [honly, List.mem_singleton] at hfirst hsecond
      exact hfirst.trans hsecond.symm
    · rw [hsplit] at h hnone
      obtain ⟨t, t', hbefore, hstep⟩ := h.step_of_append
      obtain ⟨ht, hcount⟩ := counted_of_runs hbefore
      cases hstep with
      | run hphase =>
          exact hcount.eq_nil (fun hmem => hnone (List.mem_append_left _ hmem))
            (ht.not_filled_of_running (Or.inl hphase))
    · intro hsome i hphase
      exact hsome (hcounted.eq_nil hnone (hdisciplined.not_filled_of_running (Or.inr hphase)))

/-- A caller that fails before another, which waited for the lock meanwhile, succeeds. -/
theorem singleBuilder_of_retry :
    ∃ (events : List (Event Bool)) (s : Callers Bool) (side : BuildSide),
      Runs {} events s ∧ .returned true (.error .cancelled) ∈ events ∧
        .returned false (.ok side) ∈ events ∧ SingleBuilder events s := by
  let side : BuildSide := ⟨RowArena.empty 0, none⟩
  have hrun : ∃ s : Callers Bool, Runs {} [.quiet true, .quiet false, .quiet true, .quiet true,
      .began true, .failed true .cancelled, .returned true (.error .cancelled), .quiet false,
      .quiet false, .began false, .succeeded false side, .quiet false,
      .returned false (.ok side)] s := by
    refine ⟨_, Runs.nil.snoc (.miss (i := true) rfl rfl) |>.snoc (.miss (i := false) rfl rfl)
      |>.snoc (.lock (i := true) rfl rfl) |>.snoc (.still (i := true) rfl rfl)
      |>.snoc (.run (i := true) rfl) |>.snoc (.fail (i := true) .cancelled rfl)
      |>.snoc (.unlock (i := true) rfl) |>.snoc (.lock (i := false) rfl rfl)
      |>.snoc (.still (i := false) rfl rfl) |>.snoc (.run (i := false) rfl)
      |>.snoc (.succeed (i := false) side rfl) |>.snoc (.write (i := false) rfl)
      |>.snoc (.unlock (i := false) rfl)⟩
  obtain ⟨s, hrun⟩ := hrun
  exact ⟨_, s, side, hrun, by simp, by simp, singleBuilder_of_runs hrun⟩

/-- The call that holds the lock can always go on. -/
theorem exists_step_of_inside {s : Callers ι} {i : ι} (h : (s.phase i).inside = true) :
    ∃ e t, Step s e t ∧ t.phase i ≠ s.phase i := by
  cases hphase : s.phase i with
  | locked =>
      cases hslot : s.shared.side with
      | none => exact ⟨_, _, .still hphase hslot, by simp⟩
      | some side => exact ⟨_, _, .found hphase hslot, by simp⟩
  | ready => exact ⟨_, _, .run hphase, by simp⟩
  | building => exact ⟨_, _, .fail .cancelled hphase, by simp⟩
  | built side => exact ⟨_, _, .write hphase, by simp [Callers.move]⟩
  | leaving result => exact ⟨_, _, .unlock hphase, by simp [Callers.move]⟩
  | _ => rw [hphase] at h; cases h

/-- No run gets stuck: where some call is not done, some call can go on. -/
theorem exists_step_of_runs {events : List (Event ι)} {s : Callers ι} (h : Runs {} events s)
    {i : ι} (hi : ∀ result, s.phase i ≠ .done result) :
    ∃ j e t, Step s e t ∧ t.phase j ≠ s.phase j := by
  cases hphase : s.phase i with
  | start =>
      cases hslot : s.shared.side with
      | none => exact ⟨i, _, _, .miss hphase hslot, by simp [hphase]⟩
      | some side => exact ⟨i, _, _, .hit hphase hslot, by simp [hphase]⟩
  | waiting =>
      cases hholder : s.holder with
      | none => exact ⟨i, _, _, .lock hphase hholder, by simp [Callers.move, hphase]⟩
      | some j => exact ⟨j, exists_step_of_inside (((counted_of_runs h).1.lock j).mpr hholder)⟩
  | done result => exact absurd hphase (hi result)
  | _ => exact ⟨i, exists_step_of_inside (by rw [hphase]; rfl)⟩

end SharedBuild

end JoinEngine
