import JoinEngine.Number.Double

/-!
JSON documents. Objects keep their members in the order they were written, repeated names
included; what a repeated name means is for the reader of a member to say. `canonical` is the
reading in which the last one counts and names ascend.
-/

namespace JoinEngine

/-- A JSON number: an integer that fits a signed or an unsigned 64-bit word, or a floating-point
number. -/
inductive JsonNumber where
  | int (n : Int)
  | single (x : Single)
  | double (x : Double)
  deriving DecidableEq

/-- A JSON document. `unreadable` stands for text that is well formed but denotes nothing: a
number too large for a double, a string with an unpaired surrogate, an object with such a
name. -/
inductive Json where
  | null
  | bool (b : Bool)
  | number (n : JsonNumber)
  | string (s : String)
  | array (items : List Json)
  | object (members : List (String × Json))
  | unreadable
  deriving Inhabited

namespace Json

def nat (n : Nat) : Json := .number (.int n)

def int (n : Int) : Json := .number (.int n)

def single (name : String) (payload : Json) : Json := .object [(name, payload)]

/-- Put a member into an ascending list of members, over one of the same name. -/
def insertMember (name : String) (value : Json) :
    List (String × Json) → List (String × Json)
  | [] => [(name, value)]
  | (other, v) :: rest =>
    if name < other then (name, value) :: (other, v) :: rest
    else if name = other then (name, value) :: rest
    else (other, v) :: insertMember name value rest

/-- Members in ascending order of their names, the last of each name. -/
def sortMembers (members : List (String × Json)) : List (String × Json) :=
  members.foldl (fun sorted (name, value) => insertMember name value sorted) []

mutual

/-- The document with the members of every object in ascending order and unique. -/
def canonical : Json → Json
  | .array items => .array (canonicalItems items)
  | .object members => .object (sortMembers (canonicalMembers members))
  | j => j

def canonicalItems : List Json → List Json
  | [] => []
  | j :: rest => j.canonical :: canonicalItems rest

def canonicalMembers : List (String × Json) → List (String × Json)
  | [] => []
  | (name, j) :: rest => (name, j.canonical) :: canonicalMembers rest

end

mutual

/-- Whether arrays and objects nest at most `levels` deep and everything denotes something. -/
def fits (levels : Nat) : Json → Bool
  | .array items => decide (0 < levels) && fitItems (levels - 1) items
  | .object members => decide (0 < levels) && fitMembers (levels - 1) members
  | .unreadable => false
  | _ => true

def fitItems (levels : Nat) : List Json → Bool
  | [] => true
  | j :: rest => j.fits levels && fitItems levels rest

def fitMembers (levels : Nat) : List (String × Json) → Bool
  | [] => true
  | (_, j) :: rest => j.fits levels && fitMembers levels rest

end

/-- Arrays and objects may nest this deep in a document that is read as data. -/
def maxDepth : Nat := 127

end Json

end JoinEngine
