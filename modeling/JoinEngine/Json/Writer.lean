import JoinEngine.Json.Basic
import JoinEngine.Number.Style
import JoinEngine.Text.Quoted

/-!
JSON text. Strings escape the quote, the backslash and the control characters; everything else
is written as it is. A number that is not finite, like anything else that denotes nothing, is
written `null`.
-/

namespace JoinEngine

def JsonNumber.text : JsonNumber → String
  | .int n => toString n
  | .single x => if x.isFinite then FloatStyle.jsonSingle.ofSingle x else "null"
  | .double x => if x.isFinite then FloatStyle.jsonDouble.ofDouble x else "null"

namespace Json

def escapeChar (c : Char) : List Char :=
  if c = '"' then ['\\', '"']
  else if c = '\\' then ['\\', '\\']
  else if c = '\n' then ['\\', 'n']
  else if c = '\r' then ['\\', 'r']
  else if c = '\t' then ['\\', 't']
  else if c.toNat = 8 then ['\\', 'b']
  else if c.toNat = 12 then ['\\', 'f']
  else if c.toNat < 32 then ['\\', 'u'] ++ Text.hexDigits 4 c.toNat
  else [c]

def stringChars (s : String) : List Char := '"' :: s.toList.flatMap escapeChar ++ ['"']

mutual

def compactChars : Json → List Char
  | .null => "null".toList
  | .bool b => (if b then "true" else "false").toList
  | .number n => n.text.toList
  | .string s => stringChars s
  | .array [] => ['[', ']']
  | .array (j :: rest) => '[' :: compactChars j ++ compactItems rest
  | .object [] => ['\x7b', '\x7d']
  | .object ((name, j) :: rest) =>
    '\x7b' :: stringChars name ++ ':' :: compactChars j ++ compactMembers rest
  | .unreadable => "null".toList

/-- The items after the first and the closing bracket. -/
def compactItems : List Json → List Char
  | [] => [']']
  | j :: rest => ',' :: compactChars j ++ compactItems rest

def compactMembers : List (String × Json) → List Char
  | [] => ['\x7d']
  | (name, j) :: rest =>
    ',' :: stringChars name ++ ':' :: compactChars j ++ compactMembers rest

end

def compact (j : Json) : String := String.ofList j.compactChars

private def lineBreak (indent : Nat) : List Char := '\n' :: List.replicate (2 * indent) ' '

mutual

/-- The text with a line for each item and member, two blanks deeper at each level. -/
def prettyChars (indent : Nat) : Json → List Char
  | .array [] => ['[', ']']
  | .array (j :: rest) =>
    '[' :: lineBreak (indent + 1) ++ prettyChars (indent + 1) j ++ prettyItems indent rest
  | .object [] => ['\x7b', '\x7d']
  | .object ((name, j) :: rest) =>
    '\x7b' :: lineBreak (indent + 1) ++ stringChars name ++ ':' :: ' ' ::
      prettyChars (indent + 1) j ++ prettyMembers indent rest
  | .null => "null".toList
  | .bool b => (if b then "true" else "false").toList
  | .number n => n.text.toList
  | .string s => stringChars s
  | .unreadable => "null".toList

def prettyItems (indent : Nat) : List Json → List Char
  | [] => lineBreak indent ++ [']']
  | j :: rest =>
    ',' :: lineBreak (indent + 1) ++ prettyChars (indent + 1) j ++ prettyItems indent rest

def prettyMembers (indent : Nat) : List (String × Json) → List Char
  | [] => lineBreak indent ++ ['\x7d']
  | (name, j) :: rest =>
    ',' :: lineBreak (indent + 1) ++ stringChars name ++ ':' :: ' ' ::
      prettyChars (indent + 1) j ++ prettyMembers indent rest

end

def pretty (j : Json) : String := String.ofList (j.prettyChars 0)

end Json

end JoinEngine
