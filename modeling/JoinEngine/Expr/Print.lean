import JoinEngine.Expr

/-!
Texts of expressions: as SQL writes them, and as a structure dump shows them.
-/

namespace JoinEngine.Expr

mutual

/-- The expression in SQL. A comparison has no parentheses of its own. -/
def display : Expr → String
  | .column index => "$" ++ toString index
  | .literal value => value.display
  | .compare op left right => left.display ++ " " ++ op.symbol ++ " " ++ right.display
  | .and operands => "(" ++ String.intercalate " AND " (displayAll operands) ++ ")"
  | .or operands => "(" ++ String.intercalate " OR " (displayAll operands) ++ ")"
  | .not operand => "NOT (" ++ operand.display ++ ")"
  | .isNull operand => operand.display ++ " IS NULL"
  | .isNotNull operand => operand.display ++ " IS NOT NULL"
  | .arithmetic op left right =>
    "(" ++ left.display ++ " " ++ op.symbol ++ " " ++ right.display ++ ")"
  | .concat left right => "(" ++ left.display ++ " || " ++ right.display ++ ")"

def displayAll : List Expr → List String
  | [] => []
  | e :: rest => e.display :: displayAll rest

end

mutual

def dump : Expr → String
  | .column index => "Column(" ++ toString index ++ ")"
  | .literal value => "Literal(" ++ value.dump ++ ")"
  | .compare op left right =>
    "Compare \x7b op: " ++ op.name ++ ", left: " ++ left.dump ++ ", right: " ++ right.dump
      ++ " \x7d"
  | .and operands => "And([" ++ String.intercalate ", " (dumpAll operands) ++ "])"
  | .or operands => "Or([" ++ String.intercalate ", " (dumpAll operands) ++ "])"
  | .not operand => "Not(" ++ operand.dump ++ ")"
  | .isNull operand => "IsNull(" ++ operand.dump ++ ")"
  | .isNotNull operand => "IsNotNull(" ++ operand.dump ++ ")"
  | .arithmetic op left right =>
    "Arithmetic \x7b op: " ++ op.name ++ ", left: " ++ left.dump ++ ", right: " ++ right.dump
      ++ " \x7d"
  | .concat left right => "Concat(" ++ left.dump ++ ", " ++ right.dump ++ ")"

def dumpAll : List Expr → List String
  | [] => []
  | e :: rest => e.dump :: dumpAll rest

end

end JoinEngine.Expr
