import JoinEngine.Codec.Value
import JoinEngine.Proofs.Json.Layout

/-!
Values are read back from their documents. A reader is told how many levels of arrays and
objects it may enter, and it needs no more than the document nests. Floating-point numbers are
left out: one that is not finite is written as null.
-/

namespace JoinEngine

namespace Json

theorem fits_array {levels : Nat} {items : List Json} :
    (array items).fits levels = true ↔
      ∃ inner, levels = inner + 1 ∧ ∀ j ∈ items, j.fits inner = true := by
  have hitems (inner : Nat) : fitItems inner items = true ↔ ∀ j ∈ items, j.fits inner = true := by
    induction items with
    | nil => simp [fitItems]
    | cons j items ih => simp [fitItems, ih]
  cases levels with
  | zero => simp [fits]
  | succ inner => simp [fits, hitems]

theorem fits_object {levels : Nat} {members : List (String × Json)} :
    (object members).fits levels = true ↔
      ∃ inner, levels = inner + 1 ∧ ∀ member ∈ members, member.2.fits inner = true := by
  have hmembers (inner : Nat) :
      fitMembers inner members = true ↔ ∀ member ∈ members, member.2.fits inner = true := by
    induction members with
    | nil => simp [fitMembers]
    | cons member members ih => simp [fitMembers, ih]
  cases levels with
  | zero => simp [fits]
  | succ inner => simp [fits, hmembers]

theorem fits_single {levels : Nat} {name : String} {payload : Json} :
    (single name payload).fits levels = true ↔
      ∃ inner, levels = inner + 1 ∧ payload.fits inner = true := by
  simp [single, fits_object]

theorem Exact.single {payload : Json} (h : Exact payload) (name : String) :
    Exact (Json.single name payload) :=
  .object (by simpa using h)

theorem exact_nat {n : Nat} (h : n < UInt64.size) : Exact (nat n) := by
  have hmin : Int64.minValue.toInt ≤ 0 := by decide
  have hmax : Numeral.maxWord + 1 = UInt64.size := by decide
  exact .int ⟨by omega, by omega⟩

theorem intBetween?_int {low high n : Int} (hlow : low ≤ n) (hhigh : n ≤ high) :
    (int n).intBetween? low high = some n := by
  simp [intBetween?, int, int?, hlow, hhigh]

theorem nat?_nat {n : Nat} (h : n < UInt64.size) : (nat n).nat? = some n := by
  have hread : (nat n).intBetween? 0 (UInt64.size - 1 : Nat) = some (n : Int) :=
    intBetween?_int (by omega) (by omega)
  simp only [nat?, hread]
  rfl

/-- A list is read back if its members are. -/
theorem all?_map {α : Type} {read : Json → Option α} {write : α → Json} {items : List α}
    (h : ∀ a ∈ items, read (write a) = some a) : all? read (items.map write) = some items := by
  induction items with
  | nil => rfl
  | cons a items ih =>
      rw [List.forall_mem_cons] at h
      simp [all?, h.1, ih h.2]

theorem list?_map {α : Type} {read : Json → Option α} {write : α → Json} {items : List α}
    (levels : Nat) (h : ∀ a ∈ items, read (write a) = some a) :
    (array (items.map write)).list? (levels + 1) read = some items := by
  simp [list?, items?, all?_map h]

theorem distinctNames_iff (members : List (String × Json)) :
    distinctNames members = true ↔ (members.map (·.1)).Nodup := by
  induction members with
  | nil => simp [distinctNames]
  | cons member members ih =>
      have hunique : (!members.any (·.1 == member.1)) = true ↔ member.1 ∉ members.map (·.1) := by
        simp only [Bool.not_eq_true', List.any_eq_false, beq_iff_eq, List.mem_map, not_exists,
          not_and]
      rw [distinctNames, Bool.and_eq_true, hunique, ih, List.map_cons, List.nodup_cons]

/-- An object with the fields of a record has them all. -/
theorem fields?_object (closed : Bool) (levels : Nat) (names : List String)
    (members : List (String × Json)) (hdistinct : names.Nodup)
    (hnames : members.map (·.1) = names) :
    fields? closed names (levels + 1) (object members) = some ⟨members, false⟩ := by
  subst names
  have hknown : members.filter (fun member => (members.map (·.1)).contains member.1) = members :=
    List.filter_eq_self.mpr fun member hmem => by simpa using ⟨member.2, hmem⟩
  unfold fields?
  simp only [hknown, (distinctNames_iff members).mpr hdistinct]
  simp

theorem nullable?_of_ne {α : Type} {read : Json → Option α} {j : Json} (h : j ≠ .null) :
    nullable? read j = (read j).map some := by
  cases j <;> first | rfl | exact absurd rfl h

/-- A field that is there is read from its member. -/
theorem Fields.required_of_lookup {α : Type} {f : Fields} {name : String} {j : Json}
    (h : f.present.lookup name = some j) (read : Json → Option α) :
    f.required name read = read j := by
  rw [required, h]
  rfl

end Json

namespace Value

def isFloat : Value → Bool
  | float32 _ => true
  | float64 _ => true
  | _ => false

theorem int64OfJson?_int (n : Int64) : int64OfJson? (.int n.toInt) = some n := by
  rw [int64OfJson?, Json.intBetween?_int n.minValue_le_toInt n.toInt_le]
  exact congrArg some (Int64.ofInt_toInt n)

theorem int32OfJson?_int (n : Int32) : int32OfJson? (.int n.toInt) = some n := by
  rw [int32OfJson?, Json.intBetween?_int n.minValue_le_toInt n.toInt_le]
  exact congrArg some (Int32.ofInt_toInt n)

theorem byteOfJson?_nat (byte : UInt8) : byteOfJson? (.nat byte.toNat) = some byte := by
  have hread : (Json.nat byte.toNat).intBetween? 0 255 = some (byte.toNat : Int) :=
    Json.intBetween?_int (by omega) (by have := byte.toNat_lt; omega)
  rw [byteOfJson?, hread]
  exact congrArg some UInt8.ofNat_toNat

theorem exact_int64 (n : Int64) : (Json.int n.toInt).Exact := by
  have hmax : Int64.maxValue.toInt ≤ Numeral.maxWord := by decide
  exact .int ⟨n.minValue_le_toInt, Int.le_trans n.toInt_le hmax⟩

theorem exact_int32 (n : Int32) : (Json.int n.toInt).Exact := by
  rw [← Int32.toInt_toInt64]
  exact exact_int64 n.toInt64

theorem exact_bytes (b : List UInt8) :
    (Json.array (b.map fun byte => .nat byte.toNat)).Exact := by
  refine .array ?_
  rw [List.forall_mem_map]
  exact fun byte _ => Json.exact_nat (Nat.lt_trans byte.toNat_lt (by decide))

theorem exact_toJson {v : Value} (h : v.isFloat = false) : v.toJson.Exact := by
  cases v with
  | null => exact .string _
  | bool b => exact (Json.Exact.bool b).single _
  | int32 n => exact (exact_int32 n).single _
  | int64 n => exact (exact_int64 n).single _
  | float32 x => cases h
  | float64 x => cases h
  | string s => exact (Json.Exact.string s).single _
  | bytes b => exact (exact_bytes b).single _
  | timestamp t => exact (exact_int64 t).single _

/-- A value is read back if the reader may enter as many levels as its document has. -/
theorem ofJson?_toJson {v : Value} (h : v.isFloat = false) {levels : Nat}
    (hfits : v.toJson.fits levels = true) : ofJson? levels v.toJson = some v := by
  cases v with
  | null => rfl
  | bool b =>
      obtain ⟨inner, rfl, -⟩ := Json.fits_single.mp hfits
      rfl
  | int32 n =>
      obtain ⟨inner, rfl, -⟩ := Json.fits_single.mp hfits
      exact congrArg (Option.map int32) (int32OfJson?_int n)
  | int64 n =>
      obtain ⟨inner, rfl, -⟩ := Json.fits_single.mp hfits
      exact congrArg (Option.map int64) (int64OfJson?_int n)
  | float32 x => cases h
  | float64 x => cases h
  | string s =>
      obtain ⟨inner, rfl, -⟩ := Json.fits_single.mp hfits
      rfl
  | bytes b =>
      obtain ⟨inner, rfl, hbytes⟩ := Json.fits_single.mp hfits
      obtain ⟨core, rfl, -⟩ := Json.fits_array.mp hbytes
      exact congrArg (Option.map bytes) (Json.list?_map core fun byte _ => byteOfJson?_nat byte)
  | timestamp t =>
      obtain ⟨inner, rfl, -⟩ := Json.fits_single.mp hfits
      exact congrArg (Option.map timestamp) (int64OfJson?_int t)

end Value

end JoinEngine
