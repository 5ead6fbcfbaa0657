import JoinEngine.Proofs.Expr.Columns
import JoinEngine.Proofs.Expr.Connectives

/-!
The two readings of an expression. As an operand an expression has a value, as a predicate a truth;
each reading has a rule of its own for every form of expression, and where the form belongs to the
other reading it turns to that. `readings_agree` says that the values are those of `evaluate`, and
the truths what these values say as predicates, so that one recursion is enough.
-/

namespace JoinEngine

theorem Ternary.toValue_ofBool (b : Bool) : (Ternary.ofBool b).toValue = .bool b := by
  cases b <;> rfl

namespace Expr

/-- The form has a truth, from which its value is made. -/
def isPredicate : Expr → Bool
  | .compare .. | .and _ | .or _ | .not _ | .isNull _ | .isNotNull _ => true
  | .column _ | .literal _ | .arithmetic .. | .concat .. => false

mutual

def readTruth (row : Row) : Expr → Except JoinError Ternary
  | .compare op left right => do
    let a ← readValue row left
    let b ← readValue row right
    a.compareBy op b
  | .and operands => readAll row .true operands
  | .or operands => readAny row .false operands
  | .not operand => return (← readTruth row operand).not
  | .isNull operand => return .ofBool (← readValue row operand).isNull
  | .isNotNull operand => return .ofBool (!(← readValue row operand).isNull)
  | .column index => do (← readValue row (.column index)).truth
  | .literal value => do (← readValue row (.literal value)).truth
  | .arithmetic op left right => do (← readValue row (.arithmetic op left right)).truth
  | .concat left right => do (← readValue row (.concat left right)).truth
termination_by e => (sizeOf e, if e.isPredicate then 0 else 1)
decreasing_by all_goals simp [Prod.lex_def, isPredicate] <;> omega

/-- The conjunction of a truth with those of operands, up to the first that makes it false. -/
def readAll (row : Row) (t : Ternary) : List Expr → Except JoinError Ternary
  | [] => .ok t
  | e :: rest => do
    let t := t.and (← readTruth row e)
    if t = .false then return t else readAll row t rest
termination_by operands => (sizeOf operands, 0)

def readAny (row : Row) (t : Ternary) : List Expr → Except JoinError Ternary
  | [] => .ok t
  | e :: rest => do
    let t := t.or (← readTruth row e)
    if t = .true then return t else readAny row t rest
termination_by operands => (sizeOf operands, 0)

def readValue (row : Row) : Expr → Except JoinError Value
  | .column index =>
    match row[index]? with
    | some v => .ok v
    | none => .error (.evaluation (.noColumn index row.length))
  | .literal value => .ok value
  | .arithmetic op left right => do
    let a ← readValue row left
    let b ← readValue row right
    a.arithmetic op b
  | .concat left right => do
    let a ← readValue row left
    let b ← readValue row right
    return a.concat b
  | .compare op left right => return (← readTruth row (.compare op left right)).toValue
  | .and operands => return (← readTruth row (.and operands)).toValue
  | .or operands => return (← readTruth row (.or operands)).toValue
  | .not operand => return (← readTruth row (.not operand)).toValue
  | .isNull operand => return (← readTruth row (.isNull operand)).toValue
  | .isNotNull operand => return (← readTruth row (.isNotNull operand)).toValue
termination_by e => (sizeOf e, if e.isPredicate then 1 else 0)
decreasing_by all_goals simp [Prod.lex_def, isPredicate] <;> omega

end

section

variable {row : Row} {e : Expr} {operands : List Expr}

theorem readTruth_of_operand (h : e.isPredicate = false) :
    readTruth row e = readValue row e >>= Value.truth := by
  cases e with
  | column | literal | arithmetic | concat => rw [readTruth]
  | _ => cases h

theorem readValue_of_predicate (h : e.isPredicate = true) :
    readValue row e = (readTruth row e).map Ternary.toValue := by
  cases e with
  | column | literal | arithmetic | concat => cases h
  | _ =>
      rw [readValue]
      rfl

/-- The loop of a conjunction, entered with a truth that leaves it open. -/
theorem readAll_eq (h : ∀ e ∈ operands, readTruth row e = e.holds row) {t : Ternary}
    (hopen : t ≠ .false) :
    readAll row t operands = Ternary.andThen (.ok t) (allTrue row operands) := by
  induction operands generalizing t with
  | nil =>
      rw [readAll]
      exact (Ternary.andThen_true _).symm
  | cons e rest ih =>
      have hfirst : Ternary.andThen (.ok t) (e.holds row) = (e.holds row).map t.and := by
        cases t with
        | false => exact absurd rfl hopen
        | true | unknown => rfl
      rw [readAll, allTrue_cons, ← Ternary.andThen_assoc, hfirst, h e List.mem_cons_self]
      cases e.holds row with
      | error f => rfl
      | ok u =>
          change (if t.and u = .false then Except.ok (t.and u) else readAll row (t.and u) rest) =
            Ternary.andThen (.ok (t.and u)) _
          split
          next hfalse =>
            rw [hfalse]
            rfl
          next hstill => exact ih (fun f member => h f (List.mem_cons_of_mem e member)) hstill

/-- The loop of a disjunction is that of the conjunction of the negated operands. -/
theorem readAny_eq (h : ∀ e ∈ operands, readTruth row e = e.holds row) {t : Ternary}
    (hopen : t ≠ .true) :
    (readAny row t operands).map Ternary.not =
      Ternary.andThen (.ok t.not) (allTrue row (operands.map .not)) := by
  induction operands generalizing t with
  | nil =>
      rw [readAny]
      exact (Ternary.andThen_true _).symm
  | cons e rest ih =>
      have hfirst : Ternary.andThen (.ok t.not) ((e.holds row).map Ternary.not) =
          (e.holds row).map fun u => (t.or u).not := by
        cases t with
        | true => exact absurd rfl hopen
        | false | unknown =>
            cases e.holds row with
            | error f => rfl
            | ok u => cases u <;> rfl
      rw [readAny, List.map_cons, allTrue_cons, ← Ternary.andThen_assoc, holds_not, hfirst,
        h e List.mem_cons_self]
      cases e.holds row with
      | error f => rfl
      | ok u =>
          change (if t.or u = .true then Except.ok (t.or u)
            else readAny row (t.or u) rest).map Ternary.not =
              Ternary.andThen (.ok (t.or u).not) _
          split
          next htrue =>
            rw [htrue]
            rfl
          next hstill => exact ih (fun f member => h f (List.mem_cons_of_mem e member)) hstill

/-- The readings of an expression are what `evaluate` and `holds` give. -/
def ReadsAlike (row : Row) (e : Expr) : Prop :=
  readValue row e = e.evaluate row ∧ readTruth row e = e.holds row

theorem readsAlike_of_operand (h : e.isPredicate = false)
    (hvalue : readValue row e = e.evaluate row) : e.ReadsAlike row := by
  refine ⟨hvalue, ?_⟩
  rw [readTruth_of_operand h, hvalue]
  rfl

theorem readsAlike_of_predicate (h : e.isPredicate = true)
    (htruth : e.evaluate row = (readTruth row e).map Ternary.toValue) : e.ReadsAlike row := by
  refine ⟨(readValue_of_predicate h).trans htruth.symm, ?_⟩
  unfold holds
  rw [htruth]
  cases readTruth row e with
  | error f => rfl
  | ok t => exact (Ternary.truth_toValue t).symm

end

/-- Read as an operand, an expression has the value that `evaluate` gives; read as a predicate, it
has the truth of that value. -/
theorem readings_agree (row : Row) (e : Expr) :
    readValue row e = e.evaluate row ∧ readTruth row e = e.holds row := by
  induction e using Expr.induct with
  | column index =>
      apply readsAlike_of_operand rfl
      unfold readValue evaluate
      cases row[index]? <;> rfl
  | literal value =>
      apply readsAlike_of_operand rfl
      rw [readValue, evaluate]
  | arithmetic op left right hleft hright =>
      apply readsAlike_of_operand rfl
      rw [readValue, evaluate, hleft.1, hright.1]
  | concat left right hleft hright =>
      apply readsAlike_of_operand rfl
      rw [readValue, evaluate, hleft.1, hright.1]
  | compare op left right hleft hright =>
      apply readsAlike_of_predicate rfl
      rw [readTruth, evaluate, hleft.1, hright.1]
      cases left.evaluate row with
      | error f => rfl
      | ok a =>
          cases right.evaluate row with
          | error f => rfl
          | ok b => rfl
  | and operands h =>
      apply readsAlike_of_predicate rfl
      rw [readTruth, evaluate, readAll_eq (fun e member => (h e member).2) (by decide),
        Ternary.true_andThen]
      rfl
  | or operands h =>
      apply readsAlike_of_predicate rfl
      have hloop : (readAny row .false operands).map Ternary.not =
          allTrue row (operands.map .not) :=
        (readAny_eq (fun e member => (h e member).2) (by decide)).trans (Ternary.true_andThen _)
      have hany : readAny row .false operands = anyTrue row operands := by
        rw [anyTrue_eq_allTrue_not, ← hloop, Ternary.map_not_map_not]
      rw [readTruth, evaluate, hany]
      rfl
  | not operand h =>
      apply readsAlike_of_predicate rfl
      rw [readTruth, evaluate, h.2]
      unfold holds
      cases operand.evaluate row with
      | error f => rfl
      | ok v =>
          change (v.truth >>= fun t => pure t.not.toValue) =
            (v.truth >>= fun t => pure t.not).map Ternary.toValue
          cases v.truth <;> rfl
  | isNull operand h =>
      apply readsAlike_of_predicate rfl
      rw [readTruth, evaluate, h.1]
      cases operand.evaluate row with
      | error f => rfl
      | ok v => exact congrArg Except.ok (Ternary.toValue_ofBool _).symm
  | isNotNull operand h =>
      apply readsAlike_of_predicate rfl
      rw [readTruth, evaluate, h.1]
      cases operand.evaluate row with
      | error f => rfl
      | ok v => exact congrArg Except.ok (Ternary.toValue_ofBool _).symm

end Expr

end JoinEngine
