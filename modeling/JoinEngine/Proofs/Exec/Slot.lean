import JoinEngine.Proofs.Exec.Contract
import JoinEngine.Proofs.Relation.Steady

/-!
What the slot of a stage can hold. Over a relation whose scans agree wherever they succeed, the
slot is empty or holds the side that the scanned rows make. No step breaks this, whatever fails
and whether or not the query is cancelled on the way, so it is true of every site that probing
and releasing can lead to.
-/

namespace JoinEngine

namespace JoinStage

variable [KeyHasher] {stage : JoinStage} {rows : List Row}

def SlotHolds (stage : JoinStage) (rows : List Row) (site : Site) : Prop :=
  ∀ side, site.build.side = some side → stage.sideOf rows = .ok side

/-- The sites that a stage can come to, by probing in any state of the query and by releasing
its side. -/
inductive Reached (stage : JoinStage) : Site → Prop where
  | fresh : Reached stage {}
  | probed (left : Row) (s : ProbeState) :
      Reached stage s.site → Reached stage (stage.probeRow left s).2.site
  | released {site : Site} : Reached stage site → Reached stage { site with build := {} }

theorem slotHolds_of_empty {site : Site} (h : site.build = {}) : stage.SlotHolds rows site := by
  intro side hside
  rw [h] at hside
  cases hside

def slotContract (made : BuildSide → Prop) : ProbeContract where
  inv s := ∀ side, s.site.build.side = some side → made side

/-- If every side that is made has a property, then no probe puts another side into the slot. -/
theorem probes_slotContract {made : BuildSide → Prop}
    (hmade : ∀ n rows side, stage.right.scan n = .ok rows → stage.sideOf rows = .ok side →
      made side) (left : Row) : stage.Probes left (slotContract made) := by
  apply probes_of_kept
  case counted => exact fun _ _ hs => hs
  case evaluated => exact fun _ hs => hs
  case emitted => exact fun _ _ hs => hs
  case called => exact fun _ _ hs => hs
  case emptied => exact fun _ _ side hside => nomatch hside
  case filled =>
    intro s n rows side hrows hside _ other hother
    obtain rfl := Option.some.inj hother
    exact hmade n rows side hrows hside

/-- What every side that is made has, the side in the slot has. -/
theorem Reached.slot {made : BuildSide → Prop}
    (hmade : ∀ n rows side, stage.right.scan n = .ok rows → stage.sideOf rows = .ok side →
      made side) {site : Site} (h : stage.Reached site) :
    ∀ side, site.build.side = some side → made side := by
  induction h with
  | fresh => exact fun side hside => nomatch hside
  | probed left s _ ih => exact (allows_probeRow (probes_slotContract hmade left) s ih).1
  | released => exact fun side hside => nomatch hside

theorem Reached.slotHolds (hagrees : stage.right.Agrees rows) {site : Site}
    (h : stage.Reached site) : stage.SlotHolds rows site := by
  refine h.slot fun n answer side hanswer hside => ?_
  rw [hagrees n answer hanswer] at hside
  exact hside

end JoinStage

end JoinEngine
