import JoinEngine.Text.Ligature

/-!
Terminal columns taken by a line of text. Most characters have a width of their own; a picture
made of several characters takes two columns, and letters that join share theirs. A line is read
from its end, because it is what follows that turns a sign into a picture or joins a letter.
-/

namespace JoinEngine.Text

/-- Characters that choose a form of the one before them. -/
inductive Selector where
  /-- A narrow sign. -/
  | sign
  | picture
  /-- A quotation mark over two columns. -/
  | wide
  deriving DecidableEq

def Selector.ofChar? (c : Char) : Option Selector :=
  if c.toNat = 0xfe0e then some .sign
  else if c.toNat = 0xfe0f then some .picture
  else if c.toNat = 0xfe01 then some .wide
  else none

def isQuotationMark (c : Char) : Bool :=
  inRanges #[(0x2018, 0x2019), (0x201c, 0x201d)] c

/-- What follows a character, as far as the two may be drawn as one. -/
inductive Follower where
  | plain
  /-- A form that waits for letters before it. -/
  | ligature (form : Ligature)
  /-- A Kirat Rai vowel sign that may be half of a longer one. -/
  | vowelSign
  /-- Two such halves. -/
  | longVowelSign
  | skinTone
  /-- A flag letter, with others behind it or not. -/
  | flagLetter (several : Bool)
  | picture
  /-- A joiner and a picture. -/
  | joined
  /-- A keycap mark before a joiner and a picture. -/
  | joinedKeycap
  /-- Flag letters before a joiner and a picture: the first, then an even or an odd number. -/
  | joinedLetter
  | joinedFlags (even : Bool)
  /-- The end of a region's name before a joiner and a picture: the letters that close it. -/
  | joinedTags (letters : Nat)
  /-- The same with the digits that open it. -/
  | joinedTagDigits (digits : Nat)
  deriving DecidableEq

namespace Follower

def ofChar (c : Char) : Follower :=
  if isPicture c then picture
  else if isSkinTone c then skinTone
  else if isFlagLetter c then flagLetter false
  else if c.toNat = 0x16d67 then vowelSign
  else if c.toNat = 0x16d68 then longVowelSign
  else match Ligature.ofLast? c with
    | some form => ligature form
    | none => plain

def beforeJoined? (c : Char) : Option (Int × Follower) :=
  if c = keycapMark then some (0, joinedKeycap)
  else if isFlagLetter c then some (1, joinedLetter)
  else if isSkinTone c then some (0, skinTone)
  else if c = tagEnd then some (0, joinedTags 0)
  else if isPicture c then some (0, picture)
  else none

/-- Columns that a character adds before what it is drawn as one with, and what the two are to
the character before them. A flag takes two columns for two letters, so that every second letter
before a joiner gives back the column of the first, and the next flag starts anew. -/
def before? (follower : Follower) (c : Char) : Option (Int × Follower) :=
  match follower with
  | plain | joinedKeycap => none
  | ligature form => (form.before? c).map fun (columns, rest) =>
    (columns, (rest.map ligature).getD plain)
  | vowelSign =>
    if c.toNat = 0x16d63 || c.toNat = 0x16d69 then some (0, plain)
    else if c.toNat = 0x16d67 then some (0, longVowelSign)
    else if c.toNat = 0x16d68 then some (1, vowelSign)
    else none
  | longVowelSign => if c.toNat = 0x16d63 then some (0, plain) else none
  | skinTone =>
    if takesTone c then some (0, picture) else if c = joiner then some (0, joined) else none
  | flagLetter several =>
    if isFlagLetter c then some (1, flagLetter true)
    else if several && c = joiner then some (0, joined)
    else none
  | picture => if c = joiner then some (0, joined) else none
  | joined => beforeJoined? c
  | joinedLetter => if isFlagLetter c then some (-1, joinedFlags true) else none
  | joinedFlags even =>
    if isFlagLetter c then some (if even then 3 else -1, joinedFlags (!even))
    else if c = joiner then some (0, joined)
    else none
  | joinedTags letters =>
    if isTagLetter c && letters < 6 then some (0, joinedTags (letters + 1))
    else if isTagDigit c && letters ≤ 4 then some (0, joinedTagDigits 1)
    else if c = blackFlag && 3 ≤ letters then some (0, picture)
    else none
  | joinedTagDigits digits =>
    if isTagDigit c && digits < 3 then some (0, joinedTagDigits (digits + 1))
    else if c = blackFlag && digits = 3 then some (0, picture)
    else none

end Follower

structure Following where
  follower : Follower := .plain
  selectors : List Selector := []
  deriving DecidableEq

namespace Following

/-- Behind another selector. Joined forms are kept and gather the selectors before them, and so
are joined pictures behind a selector for pictures; nothing else is drawn as one with what stands
before a selector. -/
def select (following : Following) (selector : Selector) : Following :=
  match following.follower with
  | .ligature form => ⟨.ligature form, following.selectors.insert selector⟩
  | .joined => ⟨if selector = .picture then .joined else .plain, [selector]⟩
  | .joinedKeycap => ⟨if selector = .picture then .joinedKeycap else .plain, [selector]⟩
  | _ => ⟨.plain, [selector]⟩

/-- What is left of it before a character to which some of the selectors do not apply. -/
def unselect (following : Following) (inapt : Selector → Bool) : Following :=
  if following.selectors.any inapt then
    match following.follower with
    | .ligature form => ⟨.ligature form, following.selectors.filter (!inapt ·)⟩
    | _ => {}
  else following

def selected? (following : Following) (c : Char) : Option Int :=
  if following.selectors.contains .picture && isSelectable c then
    some (if following.follower = .joined || following.follower = .joinedKeycap then 0 else 2)
  else none

/-- Columns that a character adds, with what it is to the one before it. -/
def step (following : Following) (c : Char) : Int × Following :=
  match following.selected? c with
  | some columns => (columns, { follower := .picture })
  | none =>
    let following := following.unselect (· = .picture)
    match Selector.ofChar? c with
    | some selector => (0, following.select selector)
    | none =>
      if following.selectors.contains .wide && isQuotationMark c then (2, {})
      else if following.selectors.contains .sign && isSign c then (1, {})
      else match (following.unselect fun _ => true).follower.before? c with
        | some (columns, follower) => (columns, { follower })
        | none => (charWidth c, { follower := .ofChar c })

end Following

def measure (cs : List Char) : Int × Following :=
  cs.foldr (fun c (columns, following) =>
    let (added, here) := following.step c
    (columns + added, here)) (0, {})

def charsWidth (cs : List Char) : Nat := (measure cs).1.toNat

def width (s : String) : Nat := charsWidth s.toList

end JoinEngine.Text
