import JoinEngine.Text.Emoji
import JoinEngine.Text.WidthTable

/-!
Letters of several scripts that are written over one another and so share their columns. A line
is read from its end: a letter that can join waits for those before it, and a character before it
either takes part, and adds the columns that the joined form still needs, or leaves it alone.
-/

namespace JoinEngine.Text

/-- Columns taken by one character on its own. A control character counts as one. -/
def charWidth (c : Char) : Nat :=
  if c.toNat ≤ 0xa0 then 1
  else if inRanges zeroWidthRanges c then 0
  else if inRanges doubleWidthRanges c then 2
  else if c.toNat = 0x17d8 then 3
  else 1

/-- Marks without a glyph, which come between the letters of a joined form unnoticed. -/
def isUnseenMark (c : Char) : Bool :=
  inRanges #[(0x34f, 0x34f), (0x17b4, 0x17b5), (0x180b, 0x180d), (0x180f, 0x180f),
    (0xfe00, 0xfe0f), (0xe0100, 0xe01ef)] c

/-- Characters between two Arabic letters that do not keep them from joining. -/
def isArabicTransparent (c : Char) : Bool :=
  charWidth c = 0 && !inRanges disjoiningRanges c

def isLam (c : Char) : Bool :=
  inRanges #[(0x644, 0x644), (0x6b5, 0x6b8), (0x76a, 0x76a), (0x8a6, 0x8a6), (0x8c7, 0x8c7)] c

def isAlef (c : Char) : Bool :=
  inRanges #[(0x622, 0x623), (0x625, 0x625), (0x627, 0x627), (0x671, 0x673), (0x675, 0x675),
    (0x773, 0x774), (0x870, 0x882)] c

/-- Khmer letters that are written under the letter before them behind the sign for that. -/
def isKhmerSubscript (c : Char) : Bool :=
  inRanges #[(0x1780, 0x1782), (0x1784, 0x1787), (0x1789, 0x178c), (0x178e, 0x1793),
    (0x1795, 0x1798), (0x179b, 0x179d), (0x17a0, 0x17a0), (0x17a2, 0x17a2), (0x17a7, 0x17a7),
    (0x17ab, 0x17ac), (0x17af, 0x17af)] c

def isTifinaghConsonant (c : Char) : Bool := inRanges #[(0x2d31, 0x2d65), (0x2d6f, 0x2d6f)] c

def isLisuTone (c : Char) : Bool := inRanges #[(0xa4f8, 0xa4fb)] c

def isLisuFinalTone (c : Char) : Bool := inRanges #[(0xa4fc, 0xa4fd)] c

/-- A joined form that has been read from its end, up to what it waits for. A flag tells whether
a joiner has been seen. -/
inductive Ligature where
  /-- An alef behind a lam. -/
  | alef
  /-- A Hebrew lamed behind an alef and a joiner. -/
  | lamed (joined : Bool)
  /-- A Buginese ya behind a letter, a vowel sign and a joiner. -/
  | ya (joined : Bool)
  /-- The same with the vowel sign seen. -/
  | vowelYa
  /-- A Tifinagh consonant behind another one and a joiner. -/
  | consonant (joined : Bool)
  /-- The same with the script's own joiner seen. -/
  | boundConsonant
  /-- The last tone letter of a Lisu pair. -/
  | finalTone
  /-- An Old Turkic letter behind another one and a joiner. -/
  | orkhonI (joined : Bool)
  /-- A Khmer letter behind the sign that puts it under the letter before. -/
  | subscript
  deriving DecidableEq

namespace Ligature

def behindJoiner : Ligature → Ligature
  | lamed _ => lamed true
  | ya _ => ya true
  | consonant _ => consonant true
  | orkhonI _ => orkhonI true
  | other => other

def ofLast? (c : Char) : Option Ligature :=
  if c.toNat ≤ 0xa0 then none
  else if isAlef c then some alef
  else if c.toNat = 0x5dc then some (lamed false)
  else if c.toNat = 0x1a10 then some (ya false)
  else if isTifinaghConsonant c then some (consonant false)
  else if isLisuFinalTone c then some finalTone
  else if c.toNat = 0x10c03 then some (orkhonI false)
  else if isKhmerSubscript c then some subscript
  else none

/-- Columns that a letter adds before a joined form, and what the form still waits for. -/
def letter? (form : Ligature) (c : Char) : Option (Int × Option Ligature) :=
  match form with
  | alef => if isLam c then some (0, none) else none
  | lamed true => if c.toNat = 0x5d0 then some (0, none) else none
  | ya true => if c.toNat = 0x1a17 then some (0, some vowelYa) else none
  | vowelYa => if c.toNat = 0x1a15 then some (0, none) else none
  | consonant joined =>
    if c.toNat = 0x2d7f then some (1, some boundConsonant)
    else if joined && isTifinaghConsonant c then some (0, none)
    else none
  | boundConsonant => if isTifinaghConsonant c then some (-1, none) else none
  | finalTone => if isLisuTone c then some (0, none) else none
  | orkhonI true => if c.toNat = 0x10c32 then some (0, none) else none
  | subscript => if c.toNat = 0x17d2 then some (-1, none) else none
  | _ => none

def before? (form : Ligature) (c : Char) : Option (Int × Option Ligature) :=
  if form = alef then
    if isArabicTransparent c then some (0, some form) else form.letter? c
  else if c = joiner then some (0, some form.behindJoiner)
  else if isUnseenMark c then some (0, some form)
  else form.letter? c

end Ligature

end JoinEngine.Text
