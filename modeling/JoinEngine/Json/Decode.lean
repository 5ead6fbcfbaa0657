import JoinEngine.Json.Reader

/-!
Reading data out of a document. A record is an object with its fields by name, or an array with
its fields in order; a choice is its name alone, or an object whose one member has that name.
Readers are told how many more levels of arrays and objects they may enter.
-/

namespace JoinEngine.Json

def bool? : Json → Option Bool
  | .bool b => some b
  | _ => none

def string? : Json → Option String
  | .string s => some s
  | _ => none

def int? : Json → Option Int
  | .number (.int n) => some n
  | _ => none

def intBetween? (low high : Int) (j : Json) : Option Int := do
  let n ← j.int?
  if low ≤ n ∧ n ≤ high then some n else none

/-- A position or a count: an unsigned 64-bit integer. -/
def nat? (j : Json) : Option Nat := do
  let n ← j.intBetween? 0 (UInt64.size - 1 : Nat)
  return n.toNat

def all? {α : Type} (read : Json → Option α) : List Json → Option (List α)
  | [] => some []
  | j :: rest => do return (← read j) :: (← all? read rest)

def items? : Nat → Json → Option (List Json)
  | _ + 1, .array items => some items
  | _, _ => none

def list? {α : Type} (levels : Nat) (read : Json → Option α) (j : Json) : Option (List α) := do
  all? read (← j.items? levels)

def nullable? {α : Type} (read : Json → Option α) : Json → Option (Option α)
  | .null => some none
  | j => (read j).map some

/-- The name of a choice, with what its member holds if it is written as an object. -/
def choice? : Nat → Json → Option (String × Option Json)
  | _, .string name => some (name, none)
  | _ + 1, .object [(name, payload)] => some (name, some payload)
  | _, _ => none

/-- A choice that carries nothing: its name alone, or with `null`. -/
def bareChoice? (levels : Nat) (j : Json) : Option String := do
  match ← j.choice? levels with
  | (name, none) => some name
  | (name, some .null) => some name
  | _ => none

structure Fields where
  present : List (String × Json)
  /-- Whether they were given by position. -/
  positional : Bool

def distinctNames : List (String × Json) → Bool
  | [] => true
  | (name, _) :: rest => !rest.any (·.1 == name) && distinctNames rest

/-- The fields of a record. Other names are refused if `closed`, else passed over; a field may
not occur twice, and an array may not be longer than the record. -/
def fields? (closed : Bool) (names : List String) : Nat → Json → Option Fields
  | _ + 1, .object members =>
    let known := members.filter fun (name, _) => names.contains name
    if closed && known.length != members.length then none
    else if distinctNames known then some ⟨known, false⟩
    else none
  | _ + 1, .array items =>
    if items.length ≤ names.length then some ⟨names.zip items, true⟩ else none
  | _, _ => none

namespace Fields

def required {α : Type} (f : Fields) (name : String) (read : Json → Option α) : Option α := do
  read (← f.present.lookup name)

def withDefault {α : Type} (f : Fields) (name : String) (default : α)
    (read : Json → Option α) : Option α :=
  match f.present.lookup name with
  | none => some default
  | some j => read j

/-- A nullable field, which only an object may leave out. -/
def nullable {α : Type} (f : Fields) (name : String) (read : Json → Option α) :
    Option (Option α) :=
  match f.present.lookup name with
  | none => if f.positional then none else some none
  | some j => nullable? read j

end Fields

def decode? {α : Type} (read : Nat → Json → Option α) (text : String) : Option α := do
  read maxDepth (← parse? text)

end JoinEngine.Json
