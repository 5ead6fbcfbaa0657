import JoinEngine.Expr.Eval
import JoinEngine.Proofs.Value.IntegerArithmetic

/-!
Arithmetic trees over integers. A tree that has a value has the exact one, narrow if all its
leaves are and wide otherwise: nothing wraps and nothing is rounded. It fails exactly if one of
its nodes has exact operands that are refused at the width of the node; as a failure below is
passed on, it does not matter which of several such nodes is met first.
-/

namespace JoinEngine

namespace Value

def isInt32 : Value → Bool
  | int32 _ => true
  | _ => false

theorem exists_integer {v : Value} (h : v.integer?.isSome) :
    ∃ n, v.integer? = some (if v.isInt32 then .narrow else .wide, n) := by
  cases v with
  | int32 n => exact ⟨n.toInt, rfl⟩
  | int64 n => exact ⟨n.toInt, rfl⟩
  | _ => cases h

end Value

namespace Expr

/-- Arithmetic, at any depth, over integer literals and columns that hold integers in the row. -/
inductive IntegerTree (row : Row) : Expr → Prop
  | column {index : Nat} {v : Value} (hcolumn : row[index]? = some v)
      (hinteger : v.integer?.isSome) : IntegerTree row (.column index)
  | literal {v : Value} (hinteger : v.integer?.isSome) : IntegerTree row (.literal v)
  | arithmetic {op : ArithmeticOp} {left right : Expr} (hleft : IntegerTree row left)
      (hright : IntegerTree row right) : IntegerTree row (.arithmetic op left right)

def leaves (row : Row) : Expr → List Value
  | .column index => row[index]?.toList
  | .literal v => [v]
  | .arithmetic _ left right => left.leaves row ++ right.leaves row
  | _ => []

def intWidth (row : Row) (e : Expr) : IntWidth :=
  if (e.leaves row).all (·.isInt32) then .narrow else .wide

/-- The value of a tree in the integers; a division by zero has none. -/
def exactValue (row : Row) : Expr → Option Int
  | .column index => (row[index]?.bind Value.integer?).map (·.2)
  | .literal v => v.integer?.map (·.2)
  | .arithmetic op left right => do
    let x ← left.exactValue row
    let y ← right.exactValue row
    op.exactResult x y
  | _ => none

/-- Some node of the tree has exact operands that are refused at the width of the node. -/
inductive HasRefusedNode (row : Row) : Expr → Prop
  | here {op : ArithmeticOp} {left right : Expr} {x y : Int}
      (hleft : left.exactValue row = some x) (hright : right.exactValue row = some y)
      (hrefused : op.Refuses ((left.intWidth row).join (right.intWidth row)) x y) :
      HasRefusedNode row (.arithmetic op left right)
  | left {op : ArithmeticOp} {left right : Expr} (h : HasRefusedNode row left) :
      HasRefusedNode row (.arithmetic op left right)
  | right {op : ArithmeticOp} {left right : Expr} (h : HasRefusedNode row right) :
      HasRefusedNode row (.arithmetic op left right)

section

variable {row : Row}

theorem intWidth_arithmetic (op : ArithmeticOp) (left right : Expr) :
    (Expr.arithmetic op left right).intWidth row =
      (left.intWidth row).join (right.intWidth row) := by
  simp only [intWidth, leaves, List.all_append]
  cases (left.leaves row).all (·.isInt32) <;> cases (right.leaves row).all (·.isInt32) <;> rfl

/-- The tree evaluates to its exact value, at its width. -/
def EvaluatesExactly (row : Row) (e : Expr) : Prop :=
  ∃ n v, e.exactValue row = some n ∧ v.integer? = some (e.intWidth row, n) ∧
    e.evaluate row = .ok v

theorem evaluatesExactly_column {index : Nat} {v : Value} (hcolumn : row[index]? = some v)
    (hinteger : v.integer?.isSome) : (Expr.column index).EvaluatesExactly row := by
  obtain ⟨n, hn⟩ := v.exists_integer hinteger
  refine ⟨n, v, ?_, ?_, ?_⟩
  · rw [exactValue, hcolumn, Option.bind_some, hn]
    rfl
  · simpa [intWidth, leaves, hcolumn] using hn
  · rw [evaluate, hcolumn]

theorem evaluatesExactly_literal {v : Value} (hinteger : v.integer?.isSome) :
    (Expr.literal v).EvaluatesExactly row := by
  obtain ⟨n, hn⟩ := v.exists_integer hinteger
  refine ⟨n, v, ?_, ?_, rfl⟩
  · rw [exactValue, hn]
    rfl
  · simpa [intWidth, leaves] using hn

/-- The tree either has no refused node and its exact value, or a refused node and fails. -/
def ExactOrRefused (row : Row) (e : Expr) : Prop :=
  ¬ e.HasRefusedNode row ∧ e.EvaluatesExactly row ∨
    e.HasRefusedNode row ∧ ∃ fault, e.evaluate row = .error (.evaluation fault)

section

variable {op : ArithmeticOp} {left right : Expr}

/-- With exact operands the node itself decides. -/
theorem exactOrRefused_arithmetic (hleftKept : ¬ left.HasRefusedNode row)
    (hrightKept : ¬ right.HasRefusedNode row) (hleft : left.EvaluatesExactly row)
    (hright : right.EvaluatesExactly row) : (Expr.arithmetic op left right).ExactOrRefused row := by
  obtain ⟨x, a, hx, ha, hleftValue⟩ := hleft
  obtain ⟨y, b, hy, hb, hrightValue⟩ := hright
  have hnode : (Expr.arithmetic op left right).evaluate row = a.arithmetic op b := by
    rw [evaluate, hleftValue, hrightValue]
    rfl
  by_cases hrefused : op.Refuses ((left.intWidth row).join (right.intWidth row)) x y
  · refine Or.inr ⟨.here hx hy hrefused, op.integerFault, ?_⟩
    rw [hnode, Value.arithmetic_of_refuses ha hb hrefused]
  · obtain ⟨n, c, hn, hc, hresult⟩ := Value.arithmetic_of_not_refuses ha hb hrefused
    refine Or.inl ⟨?kept, n, c, ?exact, ?width, hnode.trans hresult⟩
    case kept =>
      rintro (⟨hleftExact, hrightExact, hnot⟩ | hbelow | hbelow)
      · obtain rfl := Option.some.inj (hx.symm.trans hleftExact)
        obtain rfl := Option.some.inj (hy.symm.trans hrightExact)
        exact hrefused hnot
      · exact hleftKept hbelow
      · exact hrightKept hbelow
    case exact =>
      rw [exactValue, hx, hy]
      exact hn
    case width => rw [intWidth_arithmetic, hc]

theorem exactOrRefused_of_left (hrefused : left.HasRefusedNode row) {fault : EvalFault}
    (hfault : left.evaluate row = .error (.evaluation fault)) :
    (Expr.arithmetic op left right).ExactOrRefused row := by
  refine Or.inr ⟨.left hrefused, fault, ?_⟩
  rw [evaluate, hfault]
  rfl

theorem exactOrRefused_of_right {v : Value} (hleft : left.evaluate row = .ok v)
    (hrefused : right.HasRefusedNode row) {fault : EvalFault}
    (hfault : right.evaluate row = .error (.evaluation fault)) :
    (Expr.arithmetic op left right).ExactOrRefused row := by
  refine Or.inr ⟨.right hrefused, fault, ?_⟩
  rw [evaluate, hleft, hfault]
  rfl

end

theorem IntegerTree.exactOrRefused {e : Expr} (h : e.IntegerTree row) : e.ExactOrRefused row := by
  induction h with
  | column hcolumn hinteger => exact Or.inl ⟨nofun, evaluatesExactly_column hcolumn hinteger⟩
  | literal hinteger => exact Or.inl ⟨nofun, evaluatesExactly_literal hinteger⟩
  | arithmetic hleft hright ihleft ihright =>
      rcases ihleft with ⟨hleftKept, hleftExact⟩ | ⟨hrefused, fault, hfault⟩
      · rcases ihright with ⟨hrightKept, hrightExact⟩ | ⟨hrefused, fault, hfault⟩
        · exact exactOrRefused_arithmetic hleftKept hrightKept hleftExact hrightExact
        · obtain ⟨x, a, -, -, hleftValue⟩ := hleftExact
          exact exactOrRefused_of_right hleftValue hrefused hfault
      · exact exactOrRefused_of_left hrefused hfault

end

/-- Integer arithmetic is exact or fails. A tree over integers evaluates to its exact value, a
narrow integer if every leaf is one and a wide integer otherwise, or to a failure of evaluation;
and it fails exactly if some node has exact operands that are refused at the width of the node. -/
theorem integerTree_exact_or_fails {row : Row} {e : Expr} (h : e.IntegerTree row) :
    (e.EvaluatesExactly row ∨ ∃ fault, e.evaluate row = .error (.evaluation fault)) ∧
      ((∃ error, e.evaluate row = .error error) ↔ e.HasRefusedNode row) := by
  rcases h.exactOrRefused with ⟨hkept, n, v, hn, hv, hvalue⟩ | ⟨hrefused, fault, hfault⟩
  · refine ⟨Or.inl ⟨n, v, hn, hv, hvalue⟩, ?_, fun hrefused => absurd hrefused hkept⟩
    rintro ⟨error, herror⟩
    cases hvalue.symm.trans herror
  · exact ⟨Or.inr ⟨fault, hfault⟩, fun _ => hrefused, fun _ => ⟨_, hfault⟩⟩

/-- The remainder of the least narrow integer by minus one is refused among narrow integers, also
below a wide sum, and exact if the divisor is wide. -/
theorem integerTree_of_least_remainder :
    let row : Row := [.int32 Int32.minValue, .int64 (-1)]
    let mixed : Expr := .arithmetic .mod (.column 0) (.column 1)
    let narrow : Expr := .arithmetic .mod (.column 0) (.literal (.int32 (-1)))
    let sum : Expr := .arithmetic .add (.column 1) narrow
    mixed.IntegerTree row ∧ mixed.evaluate row = .ok (.int64 0) ∧ mixed.EvaluatesExactly row ∧
      sum.IntegerTree row ∧ sum.HasRefusedNode row ∧ ∃ error, sum.evaluate row = .error error := by
  intro row mixed narrow sum
  have hmixed : mixed.IntegerTree row := .arithmetic (.column rfl rfl) (.column rfl rfl)
  have hsum : sum.IntegerTree row :=
    .arithmetic (.column rfl rfl) (.arithmetic (.column rfl rfl) (.literal rfl))
  have hrefused : sum.HasRefusedNode row := .right (.here rfl rfl (.leastByMinusOne rfl rfl rfl))
  have hvalue : mixed.evaluate row = .ok (.int64 0) := by rfl
  have hexact := (integerTree_exact_or_fails hmixed).1.resolve_right fun ⟨_, hfault⟩ =>
    nomatch hvalue.symm.trans hfault
  exact ⟨hmixed, hvalue, hexact, hsum, hrefused, (integerTree_exact_or_fails hsum).2.mpr hrefused⟩

end Expr

end JoinEngine
