import JoinEngine.Codec.Expr
import JoinEngine.Proofs.Codec.Value

/-!
Join descriptors are read back unchanged from their texts, if no literal is a floating-point
number, positions fit a word and the document does not nest deeper than a reader goes.
-/

namespace JoinEngine

namespace CompareOp

theorem ofJson?_toJson (op : CompareOp) (levels : Nat) : ofJson? levels op.toJson = some op := by
  cases op <;> rfl

end CompareOp

namespace ArithmeticOp

theorem ofJson?_toJson (op : ArithmeticOp) (levels : Nat) :
    ofJson? levels op.toJson = some op := by
  cases op <;> rfl

end ArithmeticOp

namespace Expr

/-- Columns are positions that fit a word, and no literal is a floating-point number. -/
inductive Portable : Expr → Prop
  | column {index : Nat} (h : index < UInt64.size) : Portable (.column index)
  | literal {value : Value} (h : value.isFloat = false) : Portable (.literal value)
  | compare {left right : Expr} (op : CompareOp) (hleft : Portable left) (hright : Portable right) :
      Portable (.compare op left right)
  | and {operands : List Expr} (h : ∀ e ∈ operands, Portable e) : Portable (.and operands)
  | or {operands : List Expr} (h : ∀ e ∈ operands, Portable e) : Portable (.or operands)
  | not {operand : Expr} (h : Portable operand) : Portable (.not operand)
  | isNull {operand : Expr} (h : Portable operand) : Portable (.isNull operand)
  | isNotNull {operand : Expr} (h : Portable operand) : Portable (.isNotNull operand)
  | arithmetic {left right : Expr} (op : ArithmeticOp) (hleft : Portable left)
      (hright : Portable right) : Portable (.arithmetic op left right)
  | concat {left right : Expr} (hleft : Portable left) (hright : Portable right) :
      Portable (.concat left right)

theorem allToJson_eq_map (operands : List Expr) : allToJson operands = operands.map toJson := by
  induction operands with
  | nil => rfl
  | cons e rest ih => rw [allToJson, ih, List.map_cons]

theorem toJson_ne_null (e : Expr) : e.toJson ≠ .null := by
  cases e <;> nofun

/-- Operands are read back if each of them is. -/
theorem list?_allToJson {operands : List Expr} {levels : Nat}
    (hread : ∀ e ∈ operands, ∀ {levels : Nat}, e.toJson.fits levels = true →
      ofJson? levels e.toJson = some e)
    (hfits : (Json.array (allToJson operands)).fits levels = true) :
    ∃ core, levels = core + 1 ∧
      (Json.array (allToJson operands)).list? (core + 1) (ofJson? core) = some operands := by
  rw [allToJson_eq_map] at hfits ⊢
  obtain ⟨core, rfl, hfit⟩ := Json.fits_array.mp hfits
  rw [List.forall_mem_map] at hfit
  exact ⟨core, rfl, Json.list?_map core fun e hmem => hread e hmem (hfit e hmem)⟩

/-- An operator and its two operands are read from their fields. -/
theorem exists_operatorFields (levels : Nat) (op left right : Json) :
    ∃ fields : Json.Fields, Json.fields? false ["op", "left", "right"] (levels + 1)
        (.object [("op", op), ("left", left), ("right", right)]) = some fields ∧
      ∀ {α : Type} (read : Json → Option α), fields.required "op" read = read op ∧
        fields.required "left" read = read left ∧ fields.required "right" read = read right :=
  ⟨_, Json.fields?_object false levels _ _ (by decide) rfl, fun read =>
    ⟨Json.Fields.required_of_lookup rfl read, Json.Fields.required_of_lookup rfl read,
      Json.Fields.required_of_lookup rfl read⟩⟩

namespace Portable

theorem exact {e : Expr} (h : e.Portable) : e.toJson.Exact := by
  have hlist {operands : List Expr} (h : ∀ e ∈ operands, e.toJson.Exact) :
      (Json.array (allToJson operands)).Exact := by
    rw [allToJson_eq_map]
    exact .array (List.forall_mem_map.mpr h)
  have hoperator {name : String} {left right : Expr} (hleft : left.toJson.Exact)
      (hright : right.toJson.Exact) :
      (Json.object [("op", .string name), ("left", left.toJson), ("right", right.toJson)]).Exact :=
    .object (by simp [Json.Exact.string, hleft, hright])
  induction h with
  | column h => exact (Json.exact_nat h).single _
  | literal h => exact (Value.exact_toJson h).single _
  | compare op _ _ hleft hright | arithmetic op _ _ hleft hright =>
      exact (hoperator hleft hright).single _
  | and _ ih | or _ ih => exact (hlist ih).single _
  | not _ ih | isNull _ ih | isNotNull _ ih => exact ih.single _
  | concat _ _ hleft hright => exact (Json.Exact.array (by simp [hleft, hright])).single _

/-- The document of a portable expression is read back as the expression, if the reader may enter
as many levels as it has. -/
theorem ofJson?_toJson {e : Expr} (h : e.Portable) :
    ∀ {levels : Nat}, e.toJson.fits levels = true → ofJson? levels e.toJson = some e := by
  induction h with
  | column h =>
      intro levels hfits
      obtain ⟨inner, rfl, -⟩ := Json.fits_single.mp hfits
      rw [ofJson?.eq_def]
      simp [toJson, Json.single, Json.nat?_nat h]
  | literal h =>
      intro levels hfits
      obtain ⟨inner, rfl, hvalue⟩ := Json.fits_single.mp hfits
      rw [ofJson?.eq_def]
      simp [toJson, Json.single, Value.ofJson?_toJson h hvalue]
  | @compare left right op _ _ hleft hright | @arithmetic left right op _ _ hleft hright =>
      intro levels hfits
      obtain ⟨inner, rfl, hrecord⟩ := Json.fits_single.mp hfits
      obtain ⟨core, rfl, hfit⟩ := Json.fits_object.mp hrecord
      simp only [List.forall_mem_cons] at hfit
      obtain ⟨fields, hfields, hread⟩ :=
        exists_operatorFields core op.toJson left.toJson right.toJson
      simp [toJson, Json.single, ofJson?, hfields, hread, op.ofJson?_toJson, hleft hfit.2.1,
        hright hfit.2.2.1]
  | and _ ih | or _ ih =>
      intro levels hfits
      obtain ⟨inner, rfl, hoperands⟩ := Json.fits_single.mp hfits
      obtain ⟨core, rfl, hread⟩ := list?_allToJson ih hoperands
      simp [toJson, Json.single, ofJson?, hread]
  | not _ ih | isNull _ ih | isNotNull _ ih =>
      intro levels hfits
      obtain ⟨inner, rfl, hoperand⟩ := Json.fits_single.mp hfits
      rw [ofJson?.eq_def]
      simp [toJson, Json.single, ih hoperand]
  | concat _ _ hleft hright =>
      intro levels hfits
      obtain ⟨inner, rfl, hpair⟩ := Json.fits_single.mp hfits
      obtain ⟨core, rfl, hfit⟩ := Json.fits_array.mp hpair
      simp only [List.forall_mem_cons] at hfit
      simp [toJson, Json.single, ofJson?, hleft hfit.1, hright hfit.2.1]

end Portable

end Expr

namespace JoinDescriptor

/-- Positions and widths fit a word, and no literal is a floating-point number. -/
structure Portable (d : JoinDescriptor) : Prop where
  leftKeys : ∀ index ∈ d.leftKeys, index < UInt64.size
  rightKeys : ∀ index ∈ d.rightKeys, index < UInt64.size
  residual : ∀ e ∈ d.residual, e.Portable
  condition : d.condition.Portable
  leftArity : d.leftArity < UInt64.size
  rightArity : d.rightArity < UInt64.size

namespace Portable

theorem exact {d : JoinDescriptor} (h : d.Portable) : d.toJson.Exact := by
  have hindices {indices : List Nat} (h : ∀ index ∈ indices, index < UInt64.size) :
      (Json.array (indices.map Json.nat)).Exact :=
    .array (List.forall_mem_map.mpr fun index hmem => Json.exact_nat (h index hmem))
  have hresidual : (Expr.optionToJson d.residual).Exact := by
    cases hd : d.residual with
    | none => exact .null
    | some e => exact (h.residual e hd).exact
  refine .object ?_
  simp only [List.forall_mem_cons]
  exact ⟨hindices h.leftKeys, hindices h.rightKeys, hresidual, h.condition.exact,
    Json.exact_nat h.leftArity, Json.exact_nat h.rightArity, by simp⟩

theorem ofJson?_toJson {d : JoinDescriptor} (h : d.Portable) {levels : Nat}
    (hfits : d.toJson.fits levels = true) : ofJson? levels d.toJson = some d := by
  have hindices {core : Nat} {indices : List Nat} (h : ∀ index ∈ indices, index < UInt64.size) :
      (Json.array (indices.map Json.nat)).list? (core + 1) Json.nat? = some indices :=
    Json.list?_map core fun index hmem => Json.nat?_nat (h index hmem)
  obtain ⟨inner, rfl, hfit⟩ := Json.fits_object.mp hfits
  simp only [List.forall_mem_cons] at hfit
  obtain ⟨hleft, hright, hresidual, hcondition, -⟩ := hfit
  obtain ⟨core, rfl, -⟩ := Json.fits_array.mp hleft
  let fields : Json.Fields := ⟨[
    ("left_equi_indices", .array (d.leftKeys.map Json.nat)),
    ("right_equi_indices", .array (d.rightKeys.map Json.nat)),
    ("non_equi_condition", Expr.optionToJson d.residual),
    ("condition", d.condition.toJson),
    ("left_arity", .nat d.leftArity),
    ("right_arity", .nat d.rightArity)], false⟩
  have hfields : d.toJson.fields? false fieldNames (core + 1 + 1) = some fields :=
    Json.fields?_object false (core + 1) fieldNames fields.present (by decide) rfl
  have hleftKeys : fields.required "left_equi_indices" (Json.list? (core + 1) Json.nat?) =
      some d.leftKeys :=
    (Json.Fields.required_of_lookup rfl _).trans (hindices h.leftKeys)
  have hrightKeys : fields.required "right_equi_indices" (Json.list? (core + 1) Json.nat?) =
      some d.rightKeys :=
    (Json.Fields.required_of_lookup rfl _).trans (hindices h.rightKeys)
  have hresidual : fields.nullable "non_equi_condition" (Expr.ofJson? (core + 1)) =
      some d.residual := by
    change Json.nullable? (Expr.ofJson? (core + 1)) (Expr.optionToJson d.residual) = _
    cases hd : d.residual with
    | none => rfl
    | some e =>
        rw [hd] at hresidual
        rw [Expr.optionToJson, Json.nullable?_of_ne e.toJson_ne_null,
          (h.residual e hd).ofJson?_toJson hresidual]
        rfl
  have hcondition : fields.required "condition" (Expr.ofJson? (core + 1)) = some d.condition :=
    (Json.Fields.required_of_lookup rfl _).trans (h.condition.ofJson?_toJson hcondition)
  have hleftArity : fields.required "left_arity" Json.nat? = some d.leftArity :=
    (Json.Fields.required_of_lookup rfl _).trans (Json.nat?_nat h.leftArity)
  have hrightArity : fields.required "right_arity" Json.nat? = some d.rightArity :=
    (Json.Fields.required_of_lookup rfl _).trans (Json.nat?_nat h.rightArity)
  unfold ofJson?
  simp only [hfields, Option.bind_eq_bind, Option.bind_some, Nat.add_sub_cancel, hleftKeys,
    hrightKeys, hresidual, hcondition, hleftArity, hrightArity]
  rfl

end Portable

/-- A descriptor is read back unchanged from the text it is written as, with blanks in it or
without, if its document nests at most 127 levels deep. -/
theorem reads_back_unchanged {d : JoinDescriptor} (h : d.Portable)
    (hdepth : d.toJson.fits Json.maxDepth = true) :
    Json.decode? ofJson? d.toJson.compact = some d ∧
      Json.decode? ofJson? d.toJson.pretty = some d := by
  unfold Json.decode?
  rw [h.exact.parse?_compact, h.exact.parse?_pretty]
  exact ⟨h.ofJson?_toJson hdepth, h.ofJson?_toJson hdepth⟩

/-- A string with everything that is escaped, the least integer and the greatest width come back,
below a condition of several levels. -/
theorem reads_back_unchanged_mixed :
    let escaped : Value := .string "say \"\\\n\" \u0001 é"
    let residual : Expr := .or [.not (.isNull (.column 2)), .and []]
    let d : JoinDescriptor := {
      leftKeys := [0]
      rightKeys := [1]
      residual := some residual
      condition := .and [.columnsEqual 0 3, residual,
        .compare .lt (.concat (.literal escaped) (.literal (.bytes [0, 255])))
          (.arithmetic .mod (.literal (.int64 (-9223372036854775808))) (.column 1))]
      leftArity := 2
      rightArity := 18446744073709551615 }
    Json.decode? ofJson? d.toJson.compact = some d ∧
      Json.decode? ofJson? d.toJson.pretty = some d := by
  intro escaped residual d
  have hresidual : residual.Portable := by
    refine .or (List.forall_mem_cons.mpr ⟨.not (.isNull (.column (by decide))), ?_⟩)
    exact List.forall_mem_singleton.mpr (.and (by simp))
  have hequal : (Expr.columnsEqual 0 3).Portable :=
    .compare _ (.column (by decide)) (.column (by decide))
  refine reads_back_unchanged ⟨by decide, by decide, ?_, .and ?_, by decide, by decide⟩ (by decide)
  · rintro e ⟨⟩
    exact hresidual
  · simp only [List.forall_mem_cons]
    exact ⟨hequal, hresidual, .compare _ (.concat (.literal rfl) (.literal rfl))
      (.arithmetic _ (.literal rfl) (.column (by decide))), by simp⟩

end JoinDescriptor

end JoinEngine
