import JoinEngine.Json.Number

/-!
Reading JSON text. The grammar is strict: no leading zeros, no trailing commas, no control
characters in strings, nothing after the document but blanks.
-/

namespace JoinEngine.Json

def isBlank (c : Char) : Bool := c = ' ' || c = '\n' || c = '\t' || c = '\r'

def skipBlanks (s : List Char) : List Char := s.dropWhile isBlank

def hexValue? (c : Char) : Option Nat :=
  if '0' ≤ c ∧ c ≤ '9' then some (c.toNat - 48)
  else if 'a' ≤ c ∧ c ≤ 'f' then some (c.toNat - 87)
  else if 'A' ≤ c ∧ c ≤ 'F' then some (c.toNat - 55)
  else none

def unit? (a b c d : Char) : Option Nat := do
  return (((← hexValue? a) * 16 + (← hexValue? b)) * 16 + (← hexValue? c)) * 16 + (← hexValue? d)

def unescape? (c : Char) : Option Char :=
  if c = '"' then some '"'
  else if c = '\\' then some '\\'
  else if c = '/' then some '/'
  else if c = 'b' then some (Char.ofNat 8)
  else if c = 'f' then some (Char.ofNat 12)
  else if c = 'n' then some '\n'
  else if c = 'r' then some '\r'
  else if c = 't' then some '\t'
  else none

def isLowSurrogate (unit : Nat) : Bool := 0xdc00 ≤ unit && unit ≤ 0xdfff

def isHighSurrogate (unit : Nat) : Bool := 0xd800 ≤ unit && unit ≤ 0xdbff

/-- The low surrogate that the text goes on with, and what follows its escape. -/
def lowSurrogate? : List Char → Option Nat
  | '\\' :: 'u' :: a :: b :: c :: d :: _ => (unit? a b c d).filter isLowSurrogate
  | _ => none

/-- The characters of a string up to its closing quote, and the text after it. The characters
are absent when a surrogate is unpaired. -/
def readChars : List Char → Option (Option (List Char) × List Char)
  | [] => none
  | c :: rest =>
    if c = '"' then some (some [], rest)
    else if c = '\\' then
      match rest with
      | [] => none
      | e :: rest =>
        if e = 'u' then
          match rest with
          | a :: b :: c :: d :: rest => do
            let unit ← unit? a b c d
            if isHighSurrogate unit then
              match lowSurrogate? rest, rest with
              | some low, _ :: _ :: _ :: _ :: _ :: _ :: rest => do
                let (chars, rest) ← readChars rest
                let code := 0x10000 + (unit - 0xd800) * 0x400 + (low - 0xdc00)
                return (chars.map (Char.ofNat code :: ·), rest)
              | _, rest => do
                let (_, rest) ← readChars rest
                return (none, rest)
            else do
              let (chars, rest) ← readChars rest
              if isLowSurrogate unit then return (none, rest)
              else return (chars.map (Char.ofNat unit :: ·), rest)
          | _ => none
        else do
          let c ← unescape? e
          let (chars, rest) ← readChars rest
          return (chars.map (c :: ·), rest)
    else if c.toNat < 32 then none
    else do
      let (chars, rest) ← readChars rest
      return (chars.map (c :: ·), rest)

def spanDigits (s : List Char) : List Nat × List Char :=
  ((s.takeWhile Char.isDigit).map fun c => c.toNat - 48, s.dropWhile Char.isDigit)

def ofDigits (digits : List Nat) : Nat := digits.foldl (fun n d => n * 10 + d) 0

def readFraction : List Char → Option (Option (List Nat) × List Char)
  | '.' :: rest =>
    match spanDigits rest with
    | ([], _) => none
    | (digits, rest) => some (some digits, rest)
  | rest => some (none, rest)

def readExponentDigits (negative : Bool) (s : List Char) : Option (Option Int × List Char) :=
  match spanDigits s with
  | ([], _) => none
  | (digits, rest) =>
    some (some (if negative then -(ofDigits digits : Int) else ofDigits digits), rest)

def readExponent : List Char → Option (Option Int × List Char)
  | [] => some (none, [])
  | c :: rest =>
    if c = 'e' || c = 'E' then
      match rest with
      | '+' :: rest => readExponentDigits false rest
      | '-' :: rest => readExponentDigits true rest
      | rest => readExponentDigits false rest
    else some (none, c :: rest)

/-- A numeral: an optional minus, digits without a leading zero, a fraction, an exponent. -/
def readNumeral (s : List Char) : Option (Numeral × List Char) := do
  let (negative, s) := match s with
    | '-' :: rest => (true, rest)
    | s => (false, s)
  match spanDigits s with
  | ([], _) => none
  | (0 :: _ :: _, _) => none
  | (whole, rest) => do
    let (fraction, rest) ← readFraction rest
    let (exponent, rest) ← readExponent rest
    return (⟨negative, whole, fraction, exponent⟩, rest)

def dropWord (word s : List Char) : Option (List Char) :=
  if word.isPrefixOf s then some (s.drop word.length) else none

mutual

def readValue : Nat → List Char → Option (Json × List Char)
  | 0, _ => none
  | fuel + 1, s =>
    match skipBlanks s with
    | [] => none
    | c :: rest =>
      if c = '"' then do
        let (chars, rest) ← readChars rest
        match chars with
        | some chars => return (.string (String.ofList chars), rest)
        | none => return (.unreadable, rest)
      else if c = '[' then
        match skipBlanks rest with
        | ']' :: rest => some (.array [], rest)
        | rest => do
          let (items, rest) ← readItems fuel rest
          return (.array items, rest)
      else if c = '\x7b' then
        match skipBlanks rest with
        | '\x7d' :: rest => some (.object [], rest)
        | rest => do
          let (members, rest) ← readMembers fuel rest
          match members with
          | some members => return (.object members, rest)
          | none => return (.unreadable, rest)
      else if c = 'n' then (dropWord "ull".toList rest).map fun rest => (.null, rest)
      else if c = 't' then (dropWord "rue".toList rest).map fun rest => (.bool true, rest)
      else if c = 'f' then (dropWord "alse".toList rest).map fun rest => (.bool false, rest)
      else do
        let (numeral, rest) ← readNumeral (c :: rest)
        return (numeral.value, rest)

/-- One or more items and the closing bracket. -/
def readItems : Nat → List Char → Option (List Json × List Char)
  | 0, _ => none
  | fuel + 1, s => do
    let (item, rest) ← readValue fuel s
    match skipBlanks rest with
    | ',' :: rest => do
      let (items, rest) ← readItems fuel rest
      return (item :: items, rest)
    | ']' :: rest => return ([item], rest)
    | _ => none

/-- One or more members and the closing brace; absent when a name is unreadable. -/
def readMembers : Nat → List Char → Option (Option (List (String × Json)) × List Char)
  | 0, _ => none
  | fuel + 1, s =>
    match skipBlanks s with
    | '"' :: rest => do
      let (name, rest) ← readChars rest
      match skipBlanks rest with
      | ':' :: rest => do
        let (value, rest) ← readValue fuel rest
        let member := name.map fun chars => (String.ofList chars, value)
        match skipBlanks rest with
        | ',' :: rest => do
          let (members, rest) ← readMembers fuel rest
          return ((do return (← member) :: (← members)), rest)
        | '\x7d' :: rest => return (member.map ([·]), rest)
        | _ => none
      | _ => none
    | _ => none

end

def parse? (text : String) : Option Json :=
  let s := text.toList
  match readValue (2 * s.length + 2) s with
  | some (j, rest) => if (skipBlanks rest).isEmpty then some j else none
  | none => none

end JoinEngine.Json
