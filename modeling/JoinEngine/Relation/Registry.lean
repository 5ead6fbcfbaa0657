import JoinEngine.Relation.Source

/-!
Relations by name. A relation registered later under the same name takes the place of the
earlier one.
-/

namespace JoinEngine

structure Registry where
  relations : List RightRelation

namespace Registry

def empty : Registry := ⟨[]⟩

/-- Put a relation in the place of the one that has its name, or at the end. -/
def replace (relation : RightRelation) : List RightRelation → List RightRelation
  | [] => [relation]
  | other :: rest =>
    if other.name = relation.name then relation :: rest else other :: replace relation rest

def register (r : Registry) (relation : RightRelation) : Registry :=
  ⟨replace relation r.relations⟩

def get? (r : Registry) (name : String) : Option RightRelation :=
  r.relations.find? (·.name == name)

def position (r : Registry) (name : String) : Nat := r.relations.findIdx (·.name == name)

/-- The relation of a name, which must be of the kind the plan expects. -/
def resolve (r : Registry) (name : String) (kind : RelationKind) :
    Except JoinError RightRelation :=
  match r.get? name with
  | none => .error (.plan (.unknownRelation name))
  | some relation =>
    if relation.kind = kind then .ok relation
    else .error (.plan (.relationKind name relation.kind.display kind.display))

def size (r : Registry) : Nat := r.relations.length

end Registry

end JoinEngine
