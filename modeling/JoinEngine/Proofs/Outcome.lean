/-!
Outcomes that are a value or a failure, read backwards: what it takes for steps in turn, for a
check, or for an outcome that was converted to be a value.
-/

namespace JoinEngine

variable {ε δ α β : Type}

/-- Of two steps that succeed one after the other each succeeds. -/
theorem exists_of_bind_eq_ok {first : Except ε α} {next : α → Except ε β} {b : β}
    (h : (first >>= next) = .ok b) : ∃ a, first = .ok a ∧ next a = .ok b := by
  cases first with
  | error e => cases h
  | ok a => exact ⟨a, rfl, h⟩

/-- What is behind a check succeeds only if the check passes. -/
theorem check_eq_ok_iff {fails : Prop} [Decidable fails] {e : ε} {rest : Except ε α} {a : α} :
    (if fails then .error e else rest) = .ok a ↔ ¬ fails ∧ rest = .ok a := by
  split
  next hfails => exact ⟨fun h => (nomatch h), fun h => absurd hfails h.1⟩
  next hpasses => exact ⟨fun h => ⟨hpasses, h⟩, fun h => h.2⟩

theorem ok_of_mapError {f : ε → δ} {result : Except ε α} {a : α}
    (h : result.mapError f = .ok a) : result = .ok a := by
  cases result with
  | error e => cases h
  | ok b => exact congrArg Except.ok (Except.ok.inj h)

theorem exists_of_toOption_map {f : α → β} {result : Except ε α} {b : β}
    (h : result.toOption.map f = some b) : ∃ a, result = .ok a ∧ f a = b := by
  cases result with
  | error e => cases h
  | ok a => exact ⟨a, rfl, Option.some.inj h⟩

theorem eq_ok_of_toBool {outcome : Except ε Unit} (h : outcome.toBool = true) :
    outcome = .ok () := by
  cases outcome with
  | error e => cases h
  | ok _ => rfl

end JoinEngine
